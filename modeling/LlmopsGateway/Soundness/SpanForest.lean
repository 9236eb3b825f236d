import LlmopsGateway.Machine.Linking
import LlmopsGateway.Math.Words
import LlmopsGateway.Model.Tracing
import LlmopsGateway.Soundness.PayloadRoundTrip
import LlmopsGateway.Soundness.PyTextReading

/-! # Spans form a forest

The number behind the last colon of a span id is the place of the span, so no two spans share an id and the
single pass of the exporter finds every parent. Programs leave all blocks they enter, and what is written to a
job payload is read back as it was.
-/

namespace LlmopsGateway

open Machine PyText

namespace TracingService

section spanId

variable {traceId name other : String} {count later : ℕ}

theorem toList_spanId : (spanId traceId name count).toList =
    (traceId.toList ++ ':' :: name.toList) ++ ':' :: Nat.toDigits 10 count := by
  have digits : (toString count).toList = Nat.toDigits 10 count := String.toList_ofList
  have colon : ":".toList = [':'] := rfl
  simp only [spanId, String.toList_append, digits, colon, List.append_assoc, List.cons_append, List.nil_append]

/-- Names may contain colons, numbers do not. -/
theorem spanId_inj (same : spanId traceId name count = spanId traceId other later) : count = later := by
  have absent (n : ℕ) : ':' ∉ Nat.toDigits 10 n := fun member => absurd (toDigits_isDigit member) (by decide)
  have texts := congrArg String.toList same
  rw [toList_spanId, toList_spanId] at texts
  exact toDigits_injective (Words.last_field_inj (absent count) (absent later) texts).2

theorem spanId_ne_empty : spanId traceId name count ≠ "" := by
  intro empty
  have texts := congrArg String.toList empty
  rw [toList_spanId] at texts
  exact absurd texts (List.append_ne_nil_of_right_ne_nil _ (List.cons_ne_nil _ _))

end spanId

variable {traceId : String} {now : ℕ → ℤ} {state next final : State} {label : Label}

/-- The spans so far: their ids tell their places, parents come first, only those of open blocks have not
ended, and their times are clock readings. -/
structure Sound (traceId : String) (now : ℕ → ℤ) (state : State) : Prop where
  named : ∀ place span, state.spans[place]? = some span → span.spanId = spanId traceId span.spanName place
  forest : Forest TraceSpan.spanId TraceSpan.parentSpanId state.spans
  ended : ∀ place span, state.spans[place]? = some span → span.endedAt = none → place ∈ state.blocks
  started : ∀ span ∈ state.spans, ∃ reading, span.startedAt = now reading
  times : ∀ span ∈ state.spans, ∀ time ∈ span.endedAt, ∃ reading, time = now reading

theorem sound_empty : Sound traceId now {} where
  named := nofun
  forest := .nil
  ended := nofun
  started := List.forall_mem_nil _
  times := List.forall_mem_nil _

/-- No id is given twice. -/
theorem Sound.fresh (sound : Sound traceId now state) (name : String) :
    spanId traceId name state.spans.length ∉ state.spans.map TraceSpan.spanId := by
  intro member
  obtain ⟨place, span, inside, there, same⟩ := Forest.exists_of_mem_map member
  rw [sound.named place span there] at same
  exact absurd (spanId_inj same) (Nat.ne_of_lt inside)

theorem Sound.enter (sound : Sound traceId now state) (name : String) (parent : Option ℕ) :
    Sound traceId now
      { spans := state.spans ++ [opened traceId now state name parent]
        blocks := state.spans.length :: state.blocks
        readings := state.readings + 1 } where
  named place span there := by
    rcases Forest.getElem?_concat_iff.mp there with ⟨-, before⟩ | ⟨rfl, rfl⟩
    · exact sound.named place span before
    · rfl
  forest := by
    refine .concat sound.forest (sound.fresh name) fun id refers => ?_
    obtain ⟨place, -, found⟩ := Option.bind_eq_some_iff.mp refers
    obtain ⟨span, there, same⟩ := Option.map_eq_some_iff.mp found
    exact List.mem_map.mpr ⟨span, List.mem_of_getElem? there, same⟩
  ended place span there running := by
    rcases Forest.getElem?_concat_iff.mp there with ⟨-, before⟩ | ⟨rfl, -⟩
    · exact List.mem_cons_of_mem _ (sound.ended place span before running)
    · exact List.mem_cons_self ..
  started := List.forall_mem_append.mpr ⟨sound.started, List.forall_mem_singleton.mpr ⟨state.readings, rfl⟩⟩
  times := List.forall_mem_append.mpr ⟨sound.times, List.forall_mem_singleton.mpr nofun⟩

/-- What a block may do to a span that is there. -/
structure Retouches (now : ℕ → ℤ) (retouch : TraceSpan → TraceSpan) : Prop where
  spanId : ∀ span, (retouch span).spanId = span.spanId
  spanName : ∀ span, (retouch span).spanName = span.spanName
  parentSpanId : ∀ span, (retouch span).parentSpanId = span.parentSpanId
  startedAt : ∀ span, (retouch span).startedAt = span.startedAt
  endedAt : ∀ span, (retouch span).endedAt = span.endedAt ∨
    ∃ reading, (retouch span).endedAt = some (now reading)

theorem retouches_annotate (key : String) (value : Json) : Retouches now (TraceSpan.annotate key value) :=
  ⟨fun _ => rfl, fun _ => rfl, fun _ => rfl, fun _ => rfl, fun _ => .inl rfl⟩

theorem retouches_finish (reading : ℕ) : Retouches now (TraceSpan.finish (now reading)) :=
  ⟨fun _ => rfl, fun _ => rfl, fun _ => rfl, fun _ => rfl, fun _ => .inr ⟨reading, rfl⟩⟩

/-- Every span is one of before, or the retouched one. -/
theorem exists_of_modify {spans : List TraceSpan} {place target : ℕ} {retouch : TraceSpan → TraceSpan}
    {span : TraceSpan} (there : (spans.modify target retouch)[place]? = some span) :
    ∃ before, spans[place]? = some before ∧ span = if target = place then retouch before else before := by
  rw [List.getElem?_modify] at there
  obtain ⟨before, found, same⟩ := Option.map_eq_some_iff.mp there
  exact ⟨before, found, same.symm⟩

theorem Sound.modify (sound : Sound traceId now state) {target : ℕ} {retouch : TraceSpan → TraceSpan}
    (retouches : Retouches now retouch) (blocks : List ℕ) (readings : ℕ)
    (ended : ∀ place before, state.spans[place]? = some before →
      (if target = place then retouch before else before).endedAt = none → place ∈ blocks) :
    Sound traceId now
      { spans := state.spans.modify target retouch, blocks := blocks, readings := readings } where
  named place span there := by
    obtain ⟨before, found, rfl⟩ := exists_of_modify there
    have named := sound.named place before found
    split_ifs
    · rwa [retouches.spanId, retouches.spanName]
    · exact named
  forest := by
    refine sound.forest.congr (List.ext_getElem? fun place => ?_)
    rw [List.getElem?_map, List.getElem?_map, List.getElem?_modify, Option.map_eq_map, Option.map_map]
    refine congrArg (fun pair => Option.map pair state.spans[place]?) (funext fun span => ?_)
    rw [Function.comp_apply]
    split_ifs
    · rw [retouches.spanId, retouches.parentSpanId]
    · rfl
  ended place span there running := by
    obtain ⟨before, found, rfl⟩ := exists_of_modify there
    exact ended place before found running
  started span member := by
    obtain ⟨place, there⟩ := List.mem_iff_getElem?.mp member
    obtain ⟨before, found, rfl⟩ := exists_of_modify there
    have started := sound.started before (List.mem_of_getElem? found)
    split_ifs
    · rwa [retouches.startedAt]
    · exact started
  times span member time ends := by
    obtain ⟨place, there⟩ := List.mem_iff_getElem?.mp member
    obtain ⟨before, found, rfl⟩ := exists_of_modify there
    have times := sound.times before (List.mem_of_getElem? found) time
    split_ifs at ends
    · rcases retouches.endedAt before with same | ⟨reading, read⟩
      · exact times (same ▸ ends)
      · exact ⟨reading, Option.some.inj (ends.symm.trans read)⟩
    · exact times ends

theorem Sound.step (sound : Sound traceId now state) (stepped : step traceId now state label = some next) :
    Sound traceId now next := by
  cases label with
  | enter name parent =>
    obtain rfl := Option.some.inj stepped
    exact sound.enter name parent
  | annotate target key value =>
    obtain rfl := Option.some.inj stepped
    refine sound.modify (retouches_annotate key value) _ _ ?_
    intro place before found running
    refine sound.ended place before found ?_
    split_ifs at running <;> exact running
  | leave =>
    cases blocks : state.blocks with
    | nil => simp [TracingService.step, blocks] at stepped
    | cons target rest =>
      rw [TracingService.step, blocks] at stepped
      obtain rfl := Option.some.inj stepped
      refine sound.modify (retouches_finish state.readings) _ _ ?_
      intro place before found running
      split_ifs at running with same
      · cases running
      have inside := sound.ended place before found running
      rw [blocks] at inside
      exact (List.mem_cons.mp inside).resolve_left (Ne.symm same)

theorem sound_of_run {labels : List Label} (ran : run? (step traceId now) {} labels = some final) :
    Sound traceId now final :=
  reachable_invariant (Sound traceId now) (fun _ _ _ sound stepped => sound.step stepped) sound_empty ran

/-- A program runs to its end and leaves the blocks it has entered, whichever way it ends. -/
theorem exists_run (block : Block) (state : State) :
    ∃ final, run? (step traceId now) state block.run.1 = some final ∧ final.blocks = state.blocks := by
  induction block generalizing state with
  | done => exact ⟨state, rfl, rfl⟩
  | raise => exact ⟨state, rfl, rfl⟩
  | annotate place key value => exact ⟨_, rfl, rfl⟩
  | span name parent body ih =>
    obtain ⟨entered, enters, blocks⟩ :
        ∃ entered, step traceId now state (.enter name parent) = some entered ∧
          entered.blocks = state.spans.length :: state.blocks := ⟨_, rfl, rfl⟩
    obtain ⟨inner, ran, kept⟩ := ih entered
    rw [blocks] at kept
    have leaves : ∃ final, step traceId now inner .leave = some final ∧ final.blocks = state.blocks := by
      rw [step, kept]
      exact ⟨_, rfl, rfl⟩
    obtain ⟨final, leaves, left⟩ := leaves
    exact ⟨final, run?_cons_iff.mpr ⟨entered, enters, run?_concat_iff.mpr ⟨inner, ran, leaves⟩⟩, left⟩
  | sequence first second ih ih' =>
    obtain ⟨middle, ran, kept⟩ := ih state
    obtain ⟨final, later, kept'⟩ := ih' middle
    rw [Block.run]
    cases whole : first.run with
    | mk labels exit =>
      rw [whole] at ran
      cases exit with
      | raised => exact ⟨middle, ran, kept⟩
      | returned => exact ⟨final, run?_append_iff.mpr ⟨middle, ran, later⟩, kept'.trans kept⟩
  | attempt body handler ih ih' =>
    obtain ⟨middle, ran, kept⟩ := ih state
    obtain ⟨final, later, kept'⟩ := ih' middle
    rw [Block.run]
    cases whole : body.run with
    | mk labels exit =>
      rw [whole] at ran
      cases exit with
      | returned => exact ⟨middle, ran, kept⟩
      | raised => exact ⟨final, run?_append_iff.mpr ⟨middle, ran, later⟩, kept'.trans kept⟩

end TracingService

namespace OtelTraceExporter

variable {κ : Type} (exporter : OtelTraceExporter κ) {spans : List TraceSpan}

/-- A pass over the spans, behind what has been emitted before. -/
def exporting (emitted : List (OtelSpan κ)) (pass : Pass String (OtelSpan κ) κ) : Exporting κ :=
  ⟨pass.links, emitted ++ pass.made⟩

def making (emitted : List (OtelSpan κ)) (place : ℕ) (span : TraceSpan) (parentContext : Option κ) :
    OtelSpan κ :=
  exporter.startSpan (emitted.length + place) span parentContext

theorem exportSpan_exporting (emitted : List (OtelSpan κ)) (pass : Pass String (OtelSpan κ) κ)
    (span : TraceSpan) :
    exporter.exportSpan (exporting emitted pass) span =
      exporting emitted (pass.take TraceSpan.spanId parentKey OtelSpan.context
        (exporter.making emitted) span) := by
  simp only [exportSpan, exporting, Pass.take, making, List.length_append, List.append_assoc]

/-- `export` is one pass that links spans by their ids. -/
theorem exportSpans_eq (spans : List TraceSpan) (emitted : List (OtelSpan κ)) :
    exporter.exportSpans spans emitted = emitted ++
      (pass TraceSpan.spanId parentKey OtelSpan.context (exporter.making emitted) spans).made := by
  have start : (⟨fun _ => none, emitted⟩ : Exporting κ) = exporting emitted {} :=
    congrArg (Exporting.mk _) (List.append_nil emitted).symm
  rw [exportSpans, start, List.foldl_hom (exporting emitted) (exporter.exportSpan_exporting emitted)]
  rfl

/-- Parent ids are not empty, so the exporter looks them all up. -/
theorem parentKey_eq (forest : Forest TraceSpan.spanId TraceSpan.parentSpanId spans)
    (named : ∀ span ∈ spans, span.spanId ≠ "") {span : TraceSpan} (member : span ∈ spans) :
    parentKey span = span.parentSpanId := by
  cases refers : span.parentSpanId with
  | none =>
    rw [parentKey, refers]
    rfl
  | some id =>
    obtain ⟨place, there⟩ := List.mem_iff_getElem?.mp member
    obtain ⟨earlier, parent, -, found, rfl⟩ := forest.referred there refers
    rw [parentKey, refers]
    exact Option.filter_some_pos (decide_eq_true (named parent (List.mem_of_getElem? found)))

/-- The OpenTelemetry span of a span, with the one of its parent as parent, or the current one. -/
structure Mirrors (spans : List TraceSpan) (emitted : List (OtelSpan κ)) (started place : ℕ) (span : TraceSpan)
    (otelSpan : OtelSpan κ) : Prop where
  name : otelSpan.name = span.spanName
  context : otelSpan.context = exporter.spanContext (started + place)
  root : span.parentSpanId = none → otelSpan.parent = exporter.current
  child : ∀ id, span.parentSpanId = some id → ∃ earlier parent other, earlier < place ∧
    spans[earlier]? = some parent ∧ parent.spanId = id ∧ emitted[earlier]? = some other ∧
      otelSpan.parent = some other.context

/-- One span of OpenTelemetry for each span of a forest, behind those there were. -/
theorem exports_forest (forest : Forest TraceSpan.spanId TraceSpan.parentSpanId spans)
    (named : ∀ span ∈ spans, span.spanId ≠ "") (before : List (OtelSpan κ)) :
    ∃ emitted, exporter.exportSpans spans before = before ++ emitted ∧ emitted.length = spans.length ∧
      ∀ place span, spans[place]? = some span → ∃ otelSpan, emitted[place]? = some otelSpan ∧
        exporter.Mirrors spans emitted before.length place span otelSpan := by
  have keyed : Forest TraceSpan.spanId parentKey spans :=
    forest.congr (List.map_congr_left fun span member => by rw [parentKey_eq forest named member])
  refine ⟨_, exporter.exportSpans_eq spans before, length_made spans, fun place span there => ?_⟩
  obtain ⟨handle, linked, made⟩ := keyed.made there
  have parents := parentKey_eq forest named (List.mem_of_getElem? there)
  refine ⟨_, made, rfl, rfl, fun top => ?_, fun id refers => ?_⟩
  · cases linked with
    | root _ => rfl
    | child refers =>
      rw [parents, top] at refers
      cases refers
  · rw [refers] at parents
    cases linked with
    | root top =>
      rw [top] at parents
      cases parents
    | child refers above found same valued =>
      obtain rfl := Option.some.inj (refers.symm.trans parents)
      exact ⟨_, _, _, above, found, same, valued, rfl⟩

end OtelTraceExporter

namespace TracingService

variable {κ : Type} {traceId : String} {now : ℕ → ℤ} {state : State}

/-- What holds of the spans of a trace and of their export, with these blocks still open. -/
structure Survives (exporter : OtelTraceExporter κ) (blocks : List ℕ) (spans : List TraceSpan) : Prop where
  distinct : (spans.map TraceSpan.spanId).Nodup
  ended : ∀ (place : ℕ) (span : TraceSpan), spans[place]? = some span → place ∉ blocks → span.endedAt ≠ none
  parents : ∀ (place : ℕ) (span : TraceSpan) (id : String), spans[place]? = some span →
    span.parentSpanId = some id →
      ∃ (earlier : ℕ) (parent : TraceSpan), earlier < place ∧ spans[earlier]? = some parent ∧ parent.spanId = id
  exported : ∀ before, ∃ emitted, exporter.exportSpans spans before = before ++ emitted ∧
    emitted.length = spans.length ∧
      ∀ place span, spans[place]? = some span → ∃ otelSpan, emitted[place]? = some otelSpan ∧
        exporter.Mirrors spans emitted before.length place span otelSpan

theorem Sound.survives (sound : Sound traceId now state) (exporter : OtelTraceExporter κ) :
    Survives exporter state.blocks state.spans where
  distinct := sound.forest.nodup
  ended place span there left running := left (sound.ended place span there running)
  parents _ _ _ there refers := sound.forest.referred there refers
  exported := by
    refine exporter.exports_forest sound.forest fun span member => ?_
    obtain ⟨place, there⟩ := List.mem_iff_getElem?.mp member
    rw [sound.named place span there]
    exact spanId_ne_empty

theorem Sound.payload (sound : Sound traceId now state) {codecs : Codecs}
    (reads : ∀ reading, codecs.fromisoformat (codecs.isoformat (now reading)) = some (now reading)) :
    Payloads.spansFromPayload codecs (Payloads.spansToPayload codecs state.spans) = .ok state.spans := by
  refine Payloads.spansFromPayload_spansToPayload (fun span member => ?_) fun span member time ends => ?_
  · obtain ⟨reading, started⟩ := sound.started span member
    rw [started, reads]
  · obtain ⟨reading, rfl⟩ := sound.times span member time ends
    exact reads reading

/-- At any moment of any program the spans survive, and so do those that are read from their payload; at its end
no block is open. -/
theorem spans_survive (exporter : OtelTraceExporter κ) (codecs : Codecs) (traceId : String) (now : ℕ → ℤ)
    (block : Block) (front back : List Label) (moment : block.run.1 = front ++ back)
    (reads : ∀ reading, codecs.fromisoformat (codecs.isoformat (now reading)) = some (now reading)) :
    ∃ state, run? (step traceId now) {} front = some state ∧ (back = [] → state.blocks = []) ∧
      Survives exporter state.blocks state.spans ∧
      ∃ spans, Payloads.spansFromPayload codecs (Payloads.spansToPayload codecs state.spans) = .ok spans ∧
        Survives exporter state.blocks spans := by
  obtain ⟨final, ran, blocks⟩ : ∃ final, run? (step traceId now) {} block.run.1 = some final ∧
    final.blocks = [] :=
    exists_run block {}
  rw [moment] at ran
  obtain ⟨state, ran, later⟩ := run?_append_iff.mp ran
  have sound := sound_of_run ran
  refine ⟨state, ran, fun last => ?_, sound.survives exporter, _, sound.payload reads, sound.survives exporter⟩
  subst last
  obtain rfl := Option.some.inj later
  exact blocks

section sample

/-- A block inside another one, left by an exception that is caught. -/
def nestedBlocks : Block := .span "root" none (.attempt (.span "call:1" (some 0) .raise) .done)

/-- An exporter whose tracer counts its spans. -/
def countingExporter (current : Option ℕ) : OtelTraceExporter ℕ where
  spanContext := id
  current := current
  toEpochNanos time := 1000 * time
  isPrintable _ := true

theorem nestedBlocks_survive : ∃ state, run? (step "trace" fun _ => 0) {} nestedBlocks.run.1 = some state ∧
    state.blocks = [] ∧ state.spans.length = 2 ∧ Survives (countingExporter none) state.blocks state.spans := by
  obtain ⟨state, ran, left, survives, -⟩ :=
    spans_survive (countingExporter none) sampleCodecs "trace" (fun _ => 0) nestedBlocks _ []
      (List.append_nil _).symm fun _ => rfl
  refine ⟨state, ran, left rfl, ?_, survives⟩
  obtain rfl := Option.some.inj ran
  rfl

/-- Where a span is current, one without a parent id becomes its child. -/
theorem root_joins_current : ∃ state span otelSpan,
    run? (step "trace" fun _ => 0) {} (Block.span "cache_lookup" none .done).run.1 = some state ∧
      state.spans = [span] ∧ span.parentSpanId = none ∧
      (countingExporter (some 7)).exportSpans state.spans [] = [otelSpan] ∧ otelSpan.parent = some 7 :=
  ⟨_, _, _, rfl, rfl, rfl, rfl, rfl⟩

end sample

end TracingService

end LlmopsGateway
