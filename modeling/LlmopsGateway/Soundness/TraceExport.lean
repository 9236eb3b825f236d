import LlmopsGateway.Model.LangfuseExporter
import LlmopsGateway.Soundness.Attribution
import LlmopsGateway.Soundness.HandlerSpans

/-! # A trace as Langfuse is told it

The batch of a request says all of its spans. Observations are known by their ids, and an id that is sent again
replaces the observation of before. The ids within a trace are distinct, and since no span of a handler has a
colon in its name, those of two requests are disjoint exactly if the requests have different trace ids.
-/

namespace LlmopsGateway

open Machine Logged PyText

namespace TracedGateway

/-- A name without the delimiter of span ids. -/
def Plain (name : String) : Prop := ':' ∉ name.toList

instance (name : String) : Decidable (Plain name) := inferInstanceAs (Decidable (':' ∉ name.toList))

def EntersPlain : TracingService.Label → Prop
  | .enter name _ => Plain name
  | _ => True

section names

variable (floats : CostFloats) (pricing : Pricing) (env : Environment) (request : ChatRequest)

theorem takes_span {α : Type} {name : String} (plain : Plain name) {body : TracedHandler α}
    (takes : Takes EntersPlain body) : Takes EntersPlain (span name body) :=
  takes.bracket plain trivial

theorem takes_annotate (place : ℕ) (key : String) (value : Json) :
    Takes EntersPlain (annotate place key value) :=
  takes_note trivial

theorem takes_lookup : Takes EntersPlain (lookup env request) := by
  refine Takes.bind (takes_span (by decide) (takes_lift _)) fun (cached, status) => ?_
  refine Takes.bind (takes_annotate _ _ _) fun _ => ?_
  split
  · exact Takes.bind (takes_annotate _ _ _) fun _ => takes_pure _
  · exact takes_pure _

theorem takes_routeCompletion : Takes EntersPlain (routeCompletion env request) := by
  refine takes_span (by decide) (Takes.bind (takes_lift _) fun response => ?_)
  exact Takes.bind (takes_annotate _ _ _) fun _ => Takes.bind (takes_annotate _ _ _) fun _ => takes_pure _

theorem takes_price (model : ModelIdentifier) (usage : TokenUsage) :
    Takes EntersPlain (price floats pricing model usage) := by
  refine takes_span (by decide) (Takes.bind (takes_lift _) fun costUsd => ?_)
  exact Takes.bind (takes_annotate _ _ _) fun _ => takes_pure _

theorem takes_completeUpstream (status : CacheStatus) (wonLock : Bool) :
    Takes EntersPlain (completeUpstream floats pricing env request status wonLock) := by
  refine Takes.bind ((takes_routeCompletion env request).ensuring _) fun response => ?_
  refine Takes.bind (takes_price floats pricing _ _) fun costUsd => ?_
  dsimp only
  split
  · exact Takes.bind (takes_lift _) fun _ => takes_lift _
  · exact takes_lift _

theorem takes_handleChatCompletion : Takes EntersPlain (handleChatCompletion floats pricing env request) := by
  refine Takes.bind (takes_lookup env _) fun (cached, status) => ?_
  cases cached with
  | some response => exact takes_lift _
  | none =>
    dsimp only
    split
    · exact takes_completeUpstream floats pricing env _ status false
    · refine Takes.bind (takes_lift _) fun _ => ?_
      split
      · exact takes_completeUpstream floats pricing env _ status true
      · split
        · exact takes_lift _
        · exact takes_completeUpstream floats pricing env _ status false

theorem takes_handleChatCompletionStream :
    Takes EntersPlain (handleChatCompletionStream floats pricing env request) := by
  refine Takes.bind (takes_lookup env _) fun (cached, status) => ?_
  cases cached with
  | some response => exact takes_lift _
  | none =>
    have routed : Takes EntersPlain (routeStream env (GatewayService.applyAdapterRoute env request)) :=
      takes_span (by decide) (Takes.bind (takes_lift _) fun _ => Takes.bind (takes_annotate _ _ _) fun _ =>
        takes_pure _)
    refine Takes.bind routed fun (chunks, selection) => ?_
    dsimp only
    split
    · exact takes_pure _
    · refine Takes.bind (takes_lift _) fun (usage, provider) => ?_
      refine Takes.bind (takes_price floats pricing _ _) fun costUsd => ?_
      exact Takes.bind (takes_lift _) fun _ => Takes.bind (takes_lift _) fun _ => takes_lift _

theorem takes_handle (visit : Visit) : Takes EntersPlain (handle floats pricing visit) := by
  rw [handle]
  split
  · exact takes_handleChatCompletionStream floats pricing visit.env visit.request
  · exact Takes.bind (takes_handleChatCompletion floats pricing visit.env visit.request) fun _ => takes_pure _

end names

end TracedGateway

namespace TracingService

variable {traceId : String} {now : ℕ → ℤ} {state next : State}

/-- The spans carry the trace id, and no name has a colon. -/
def Tagged (traceId : String) (state : State) : Prop :=
  ∀ span ∈ state.spans, span.traceId = traceId ∧ TracedGateway.Plain span.spanName

theorem Tagged.modify (tagged : Tagged traceId state) (place : ℕ) (retouch : TraceSpan → TraceSpan)
    (kept : ∀ span, (retouch span).traceId = span.traceId ∧ (retouch span).spanName = span.spanName) :
    ∀ span ∈ state.spans.modify place retouch, span.traceId = traceId ∧ TracedGateway.Plain span.spanName := by
  intro span member
  obtain ⟨index, there⟩ := List.mem_iff_getElem?.mp member
  obtain ⟨before, found, rfl⟩ := exists_of_modify there
  have tagged := tagged before (List.mem_of_getElem? found)
  split_ifs
  · rwa [(kept before).1, (kept before).2]
  · exact tagged

theorem Tagged.step (tagged : Tagged traceId state) {label : Label} (plain : TracedGateway.EntersPlain label)
    (stepped : step traceId now state label = some next) : Tagged traceId next := by
  cases label with
  | enter name parent =>
    obtain rfl := Option.some.inj stepped
    exact List.forall_mem_append.mpr ⟨tagged, List.forall_mem_singleton.mpr ⟨rfl, plain⟩⟩
  | annotate place key value =>
    obtain rfl := Option.some.inj stepped
    exact tagged.modify place (TraceSpan.annotate key value) fun _ => ⟨rfl, rfl⟩
  | leave =>
    cases blocks : state.blocks with
    | nil => simp [TracingService.step, blocks] at stepped
    | cons place rest =>
      rw [TracingService.step, blocks] at stepped
      obtain rfl := Option.some.inj stepped
      exact tagged.modify place (TraceSpan.finish (now state.readings)) fun _ => ⟨rfl, rfl⟩

/-- Two spans with one id are of the same trace. -/
theorem traceId_of_spanId {other name name' : String} {place place' : ℕ} (plain : TracedGateway.Plain name)
    (plain' : TracedGateway.Plain name') (same : spanId traceId name place = spanId other name' place') :
    traceId = other := by
  have absent (n : ℕ) : ':' ∉ Nat.toDigits 10 n := fun member => absurd (toDigits_isDigit member) (by decide)
  have texts := congrArg String.toList same
  rw [toList_spanId, toList_spanId] at texts
  obtain ⟨front, -⟩ := Words.last_field_inj (absent place) (absent place') texts
  exact String.toList_injective (Words.last_field_inj plain plain' front).1

end TracingService

namespace LangfuseExporter

open Payloads

variable {codecs : Codecs} {draw : Draw} {span : TraceSpan} {spans : List TraceSpan}

section reading

variable (codecs : Codecs)

/-- The end of an observation, which may be missing. -/
def endTime : Json → Except PayloadError (Option ℤ)
  | .null => .ok none
  | ended => (instant codecs ended).map some

/-- What the body of a `span-create` event says. -/
def observation (event : Json) : Except PayloadError TraceSpan := do
  let body ← item event "body"
  let traceId ← item body "traceId" >>= text
  let spanId ← item body "id" >>= text
  let spanName ← item body "name" >>= text
  let parentSpanId ← item body "parentObservationId" >>= text?
  let startedAt ← item body "startTime" >>= instant codecs
  let endedAt ← item body "endTime" >>= endTime codecs
  let metadata ← item body "metadata" >>= dict
  .ok { traceId, spanId, spanName, startedAt, parentSpanId, endedAt, metadata }

/-- The trace and the observations that a batch creates. -/
def traceOf (payload : Json) : Except PayloadError (String × List TraceSpan) := do
  match ← item payload "batch" with
  | .arr (created :: events) =>
    let traceId ← item created "body" >>= fun body => item body "id" >>= text
    let spans ← events.mapM (observation codecs)
    .ok (traceId, spans)
  | _ => .error (.shape .typeError)

end reading

theorem observation_spanCreate (index : ℕ)
    (started : codecs.fromisoformat (codecs.isoformat span.startedAt) = some span.startedAt)
    (ended : ∀ time ∈ span.endedAt, codecs.fromisoformat (codecs.isoformat time) = some time) :
    observation codecs (spanCreate codecs draw index span) = .ok span := by
  have startedAt : instant codecs (.str (codecs.isoformat span.startedAt)) = .ok span.startedAt :=
    instant_isoformat started
  have endedAt : endTime codecs (optional (span.endedAt.map codecs.isoformat)) = .ok span.endedAt := by
    cases present : span.endedAt with
    | none => rfl
    | some time => exact congrArg (Except.map some) (instant_isoformat (ended time present))
  have said : observation codecs (spanCreate codecs draw index span) = (do
      let parentSpanId ← text? (optional span.parentSpanId)
      let startedAt ← instant codecs (.str (codecs.isoformat span.startedAt))
      let endedAt ← endTime codecs (optional (span.endedAt.map codecs.isoformat))
      .ok { span with parentSpanId, startedAt, endedAt }) := rfl
  rw [said, text?_optional, startedAt, endedAt]
  rfl

theorem observations_mapIdx {create : ℕ → TraceSpan → Json}
    (created : ∀ index, ∀ span ∈ spans, observation codecs (create index span) = .ok span) :
    (spans.mapIdx create).mapM (observation codecs) = .ok spans := by
  induction spans generalizing create with
  | nil => rfl
  | cons span rest ih =>
    have first := created 0 span (List.mem_cons_self ..)
    have others := ih fun index other member => created (index + 1) other (List.mem_cons_of_mem _ member)
    rw [List.mapIdx_cons, List.mapM_cons, first, others]
    rfl

/-- A batch says the trace and all of its spans. -/
theorem traceOf_posted {first : TraceSpan} {rest : List TraceSpan}
    (started : ∀ span ∈ first :: rest, codecs.fromisoformat (codecs.isoformat span.startedAt) =
      some span.startedAt)
    (ended : ∀ span ∈ first :: rest, ∀ time ∈ span.endedAt,
      codecs.fromisoformat (codecs.isoformat time) = some time) :
    ∃ payload, posted codecs draw (first :: rest) = some payload ∧
      traceOf codecs payload = .ok (first.traceId, first :: rest) := by
  refine ⟨_, rfl, ?_⟩
  have observed : ((first :: rest).mapIdx (spanCreate codecs draw)).mapM (observation codecs) =
      .ok (first :: rest) :=
    observations_mapIdx fun index span member =>
      observation_spanCreate index (started span member) (ended span member)
  have said : traceOf codecs (.obj [("batch", .arr (buildEvents codecs draw first (first :: rest)))]) = (do
      let spans ← ((first :: rest).mapIdx (spanCreate codecs draw)).mapM (observation codecs)
      .ok (first.traceId, spans)) := rfl
  rw [said, observed]
  rfl

end LangfuseExporter

namespace TracedGateway

open TracingService

variable {floats : CostFloats} {pricing : Pricing} {visit : Visit} {traceId : String} {now : ℕ → ℤ}

/-- The spans of a request that has ended. -/
theorem exists_spans (floats : CostFloats) (pricing : Pricing) (visit : Visit) (traceId : String)
    (now : ℕ → ℤ) :
    ∃ state rest, spans floats pricing visit traceId now = state.spans ∧
      TracingService.Sound traceId now state ∧
      Tagged traceId state ∧ (∀ span ∈ state.spans, span.endedAt ≠ none) ∧
      state.spans.map (·.spanName) = "cache_lookup" :: rest := by
  obtain ⟨status, blocks, ending, accounts, distinct, -⟩ :
      Begins floats (GatewayService.applyAdapterRoute visit.env visit.request) (handle floats pricing visit) :=
    begins_handle visit
  obtain ⟨found, ran, outlined⟩ :
      ∃ found, run? (TracingService.step traceId now) {}
          (lookupLabels (GatewayService.applyAdapterRoute visit.env visit.request) status) = some found ∧
        Outlined found _ := lookup_run _ status
  obtain ⟨state, later, outlined⟩ :
      ∃ state, run? (TracingService.step traceId now) found (blockLabels 1 blocks) = some state ∧
        Outlined state _ := outlined.blocks_run distinct
  have ended : run? (TracingService.step traceId now) {} (notes (handle floats pricing visit)) =
      some state := by
    rw [accounts.notes_eq]
    exact run?_append_iff.mpr ⟨found, ran, later⟩
  have empty : Tagged traceId {} := List.forall_mem_nil _
  have tagged : Tagged traceId state :=
    run_invariant (fun _ label => EntersPlain label) (Tagged traceId)
      (fun _ _ _ tagged plain stepped => tagged.step plain stepped) empty
      (along_of_forall _ (takes_handle floats pricing visit)) ended
  have names := congrArg (List.map Prod.fst) outlined.spans
  rw [List.map_map] at names
  exact ⟨state, _, by rw [spans, ended]; rfl, sound_of_run ended, tagged, outlined.ended, names⟩

/-- What Langfuse is told of a trace: all of its spans, under distinct ids. -/
structure Exported (codecs : Codecs) (draw : LangfuseExporter.Draw) (traceId : String)
    (spans : List TraceSpan) :
    Prop where
  ended : ∀ span ∈ spans, span.endedAt ≠ none
  distinct : (spans.map TraceSpan.spanId).Nodup
  told : ∃ payload, LangfuseExporter.posted codecs draw spans = some payload ∧
    LangfuseExporter.traceOf codecs payload = .ok (traceId, spans)

theorem exported (floats : CostFloats) (pricing : Pricing) {codecs : Codecs} (draw : LangfuseExporter.Draw)
    (visit : Visit) (traceId : String)
    (reads : ∀ reading, codecs.fromisoformat (codecs.isoformat (now reading)) = some (now reading)) :
    Exported codecs draw traceId (spans floats pricing visit traceId now) := by
  obtain ⟨state, names, same, sound, tagged, ended, named⟩ := exists_spans floats pricing visit traceId now
  rw [same]
  refine ⟨ended, sound.forest.nodup, ?_⟩
  cases listed : state.spans with
  | nil =>
    rw [listed] at named
    cases named
  | cons first rest =>
    have traced : first.traceId = traceId := (tagged first (listed ▸ List.mem_cons_self ..)).1
    rw [← traced]
    refine LangfuseExporter.traceOf_posted (fun span member => ?_) fun span member time ends => ?_
    · obtain ⟨reading, started⟩ := sound.started span (listed ▸ member)
      rw [started, reads]
    · obtain ⟨reading, rfl⟩ := sound.times span (listed ▸ member) time ends
      exact reads reading

/-- The span of the lookup has the same id in every request of a trace. -/
theorem lookup_mem (floats : CostFloats) (pricing : Pricing) (visit : Visit) (traceId : String) (now : ℕ → ℤ) :
    spanId traceId "cache_lookup" 0 ∈ (spans floats pricing visit traceId now).map TraceSpan.spanId := by
  obtain ⟨state, names, same, sound, -, -, named⟩ := exists_spans floats pricing visit traceId now
  rw [same]
  cases listed : state.spans with
  | nil =>
    rw [listed] at named
    cases named
  | cons first rest =>
    rw [listed] at named
    have looked : first.spanName = "cache_lookup" := (List.cons.inj named).1
    have identified := sound.named 0 first (by rw [listed]; rfl)
    rw [looked] at identified
    exact identified ▸ List.mem_cons_self ..

/-- Whatever two requests are and however they end, each is told whole, and neither replaces an observation
of the other exactly if their trace ids differ. -/
theorem exports_apart (floats : CostFloats) (pricing : Pricing) (codecs : Codecs)
    (draw draw' : LangfuseExporter.Draw) (visit visit' : Visit) (traceId traceId' : String) (now now' : ℕ → ℤ)
    (reads : ∀ reading, codecs.fromisoformat (codecs.isoformat (now reading)) = some (now reading))
    (reads' : ∀ reading, codecs.fromisoformat (codecs.isoformat (now' reading)) = some (now' reading)) :
    Exported codecs draw traceId (spans floats pricing visit traceId now) ∧
      Exported codecs draw' traceId' (spans floats pricing visit' traceId' now') ∧
      (((spans floats pricing visit traceId now).map TraceSpan.spanId).Disjoint
        ((spans floats pricing visit' traceId' now').map TraceSpan.spanId) ↔ traceId ≠ traceId') := by
  refine ⟨exported floats pricing draw visit traceId reads,
    exported floats pricing draw' visit' traceId' reads',
    fun apart same => ?_, fun different => ?_⟩
  · subst same
    exact apart (lookup_mem floats pricing visit traceId now) (lookup_mem floats pricing visit' traceId now')
  · obtain ⟨state, -, same, sound, tagged, -, -⟩ := exists_spans floats pricing visit traceId now
    obtain ⟨state', -, same', sound', tagged', -, -⟩ := exists_spans floats pricing visit' traceId' now'
    rw [same, same']
    intro id here there
    obtain ⟨place, span, -, found, rfl⟩ := Forest.exists_of_mem_map here
    obtain ⟨place', span', -, found', equal⟩ := Forest.exists_of_mem_map there
    have plain := (tagged span (List.mem_of_getElem? found)).2
    have plain' := (tagged' span' (List.mem_of_getElem? found')).2
    rw [sound.named place span found, sound'.named place' span' found'] at equal
    exact different (traceId_of_spanId plain plain' equal.symm)

/-- The same request twice: once more in the same trace, and in another one. -/
theorem exports_outage :
    let spans := spans ⟨fun _ => .null⟩ (fun _ => none)
      ⟨GatewayService.outageEnv false, RoutingService.gptRequest⟩
    ¬ ((spans "trace" fun _ => 0).map TraceSpan.spanId).Disjoint
      ((spans "trace" fun _ => 5).map TraceSpan.spanId) ∧
      ((spans "trace" fun _ => 0).map TraceSpan.spanId).Disjoint
        ((spans "other:trace" fun _ => 5).map TraceSpan.spanId) := by
  have apart (traceId : String) :=
    exports_apart ⟨fun _ => .null⟩ (fun _ => none) sampleCodecs ⟨0, fun _ => .ofNat 0⟩
    ⟨5, fun _ => .ofNat 0⟩ ⟨GatewayService.outageEnv false, RoutingService.gptRequest⟩
    ⟨GatewayService.outageEnv false, RoutingService.gptRequest⟩ "trace" traceId (fun _ => 0) (fun _ => 5)
    (fun _ => rfl) fun _ => rfl
  exact ⟨fun disjoint => (apart "trace").2.2.mp disjoint rfl, (apart "other:trace").2.2.mpr (by decide)⟩

end TracedGateway

end LlmopsGateway
