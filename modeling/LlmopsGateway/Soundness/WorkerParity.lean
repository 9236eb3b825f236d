import LlmopsGateway.Model.TraceExporters
import LlmopsGateway.Soundness.TraceExport

/-! # What a worker does of what the gateway would

A worker calls the persistence, the cache and the exporters with the arguments the in-process closures have.
The rows, the cache entries and the batches of Langfuse are the same. No worker has a tracer provider, so the
spans of OpenTelemetry are the same only where there are none.
-/

namespace LlmopsGateway

open PyText

variable {κ : Type}

/-- Another drawing of the identities of OpenTelemetry. -/
def OtelSpan.rename (draw : κ → κ) (span : OtelSpan κ) : OtelSpan κ :=
  { span with context := draw span.context, parent := span.parent.map draw }

/-- The same spans but for the identities OpenTelemetry draws, and batches that tell the same accounts the same
traces, whatever the ids and the times of their events are. -/
structure Telemetry.Same (codecs : Codecs) (first second : Telemetry κ) : Prop where
  ended : ∃ draw : κ → κ, draw.Injective ∧ second.ended = first.ended.map (OtelSpan.rename draw)
  posted : second.posted.map (Prod.map id (LangfuseExporter.traceOf codecs)) =
    first.posted.map (Prod.map id (LangfuseExporter.traceOf codecs))

/-- The tasks of a worker on the payloads of a job, and the closures of the gateway on the job itself: the
same rows, and the same backfill for the same tenant. -/
structure SameStores (codecs : Codecs) (decimal : Char → Option (Fin 10)) (job : TraceJob) : Prop where
  rows : ∀ database rowId,
    (Workers.persistTrace codecs decimal database (Payloads.buildTraceJobPayload codecs job) rowId).map some =
      InProcess.persist decimal (some database) job rowId
  backfill : ∀ (ι : Type) (tenantId : String) (id : ι),
    Workers.backfillCache codecs (codecs.dumpRequest job.request)
      (codecs.dumpResponse job.response) tenantId id =
      .ok (InProcess.backfill job.request job.response tenantId id)

/-- And the same spans exported, whatever the tracers and Langfuse's events draw in the two processes. -/
structure SameEffect (codecs : Codecs) (decimal : Char → Option (Fin 10)) (settings : TracingSettings)
    (job : TraceJob) : Prop extends SameStores codecs decimal job where
  exports : ∀ (κ : Type) (tracer tracer' : OtelTraceExporter κ) (draw draw' : LangfuseExporter.Draw),
    ∃ telemetry,
      Workers.exportOtelSpans codecs settings tracer' draw' (Payloads.buildTraceJobPayload codecs job) =
        .ok telemetry ∧
      (InProcess.exportSpans codecs settings tracer draw job.spans).Same codecs telemetry

section exporters

variable (codecs : Codecs) (settings : TracingSettings) (process : ExportProcess κ) (spans : List TraceSpan)

/-- What the exporters of a process do together. -/
theorem ExportProcess.exportSpans_eq :
    process.exportSpans codecs settings spans =
      { ended :=
          if settings.tracingEnabled ∧ process.provider.isSome then process.tracer.exportSpans spans [] else []
        posted := settings.langfuseAccount.toList.flatMap fun account =>
          ((LangfuseExporter.posted codecs process.draw spans).map fun batch => (account, batch)).toList } := by
  unfold ExportProcess.exportSpans TracingSettings.buildTraceExporters
  cases provided : process.provider <;> cases settings.tracingEnabled <;> cases settings.langfuseAccount <;>
    simp [TraceExporter.exportSpans, provided]

/-- The gateway ends a span of OpenTelemetry for each span, unless tracing is off. -/
theorem length_ended_inProcess (tracer : OtelTraceExporter κ) (draw : LangfuseExporter.Draw) :
    (InProcess.exportSpans codecs settings tracer draw spans).ended.length =
      if settings.tracingEnabled then spans.length else 0 := by
  rw [InProcess.exportSpans, ExportProcess.exportSpans_eq, InProcess.lifespan, TracingSettings.configureOtel]
  cases settings.tracingEnabled with
  | false => rfl
  | true =>
    change (tracer.exportSpans spans []).length = spans.length
    rw [tracer.exportSpans_eq, List.nil_append, Machine.length_made]

/-- A worker ends none. -/
theorem ended_worker (tracer : OtelTraceExporter κ) (draw : LangfuseExporter.Draw) :
    ((Workers.startup tracer draw).exportSpans codecs settings spans).ended = [] := by
  rw [ExportProcess.exportSpans_eq, Workers.startup]
  exact if_neg fun recording => Bool.false_ne_true recording.2

end exporters

section parity

variable {codecs : Codecs} {decimal : Char → Option (Fin 10)} {settings : TracingSettings} {job : TraceJob}

theorem exportOtelSpans_build (inverse : codecs.Inverse job) (tracer : OtelTraceExporter κ)
    (draw : LangfuseExporter.Draw) :
    Workers.exportOtelSpans codecs settings tracer draw (Payloads.buildTraceJobPayload codecs job) =
      .ok ((Workers.startup tracer draw).exportSpans codecs settings job.spans) := by
  have spans : (Payloads.item (Payloads.buildTraceJobPayload codecs job) "spans" >>=
      Payloads.spansFromPayload codecs) = .ok job.spans :=
    Payloads.spansFromPayload_spansToPayload inverse.startedAt inverse.endedAt
  rw [Workers.exportOtelSpans, spans]
  rfl

/-- Two batches of one list of spans say the same trace. -/
theorem traceOf_posted_congr (inverse : codecs.Inverse job) (draw draw' : LangfuseExporter.Draw) :
    (LangfuseExporter.posted codecs draw' job.spans).map (LangfuseExporter.traceOf codecs) =
      (LangfuseExporter.posted codecs draw job.spans).map (LangfuseExporter.traceOf codecs) := by
  cases listed : job.spans with
  | nil => rfl
  | cons first rest =>
    have said (draw : LangfuseExporter.Draw) : ∃ batch,
        LangfuseExporter.posted codecs draw (first :: rest) = some batch ∧
          LangfuseExporter.traceOf codecs batch = .ok (first.traceId, first :: rest) :=
      LangfuseExporter.traceOf_posted (listed ▸ inverse.startedAt) (listed ▸ inverse.endedAt)
    obtain ⟨batch, posted, told⟩ := said draw
    obtain ⟨batch', posted', told'⟩ := said draw'
    rw [posted, posted', Option.map_some, Option.map_some, told, told']

/-- Langfuse is told the same by every process, whatever its provider is. -/
theorem posted_congr (inverse : codecs.Inverse job) (process process' : ExportProcess κ) :
    (process'.exportSpans codecs settings job.spans).posted.map
        (Prod.map id (LangfuseExporter.traceOf codecs)) =
      (process.exportSpans codecs settings job.spans).posted.map
        (Prod.map id (LangfuseExporter.traceOf codecs)) := by
  have told (process : ExportProcess κ) :
      (process.exportSpans codecs settings job.spans).posted.map
          (Prod.map id (LangfuseExporter.traceOf codecs)) =
        settings.langfuseAccount.toList.flatMap fun account =>
          (((LangfuseExporter.posted codecs process.draw job.spans).map (LangfuseExporter.traceOf codecs)).map
            fun trace => (account, trace)).toList := by
    rw [ExportProcess.exportSpans_eq, List.map_flatMap]
    refine List.flatMap_congr fun account _ => ?_
    cases LangfuseExporter.posted codecs process.draw job.spans <;> rfl
  rw [told, told, traceOf_posted_congr inverse process.draw process'.draw]

/-- Where the worker exports what the gateway would, there is no span of OpenTelemetry to export. -/
theorem SameEffect.silent (same : SameEffect codecs decimal settings job) (inverse : codecs.Inverse job) :
    settings.tracingEnabled = false ∨ job.spans = [] := by
  let tracer : OtelTraceExporter ℕ := ⟨id, none, id, fun _ => true⟩
  let draw : LangfuseExporter.Draw := ⟨0, fun _ => .ofNat 0⟩
  obtain ⟨telemetry, ran, exported⟩ := same.exports ℕ tracer tracer draw draw
  obtain rfl := Except.ok.inj ((exportOtelSpans_build inverse tracer draw).symm.trans ran)
  obtain ⟨rename, -, ended⟩ := exported.ended
  have counted := congrArg List.length ended
  rw [ended_worker, List.length_map, length_ended_inProcess] at counted
  cases enabled : settings.tracingEnabled with
  | false => exact .inl rfl
  | true =>
    rw [enabled] at counted
    exact .inr (List.length_eq_zero_iff.mp counted.symm)

/-- The rows and the caches do not depend on the process. -/
theorem worker_sameStores (finite : job.request.Finite) (inverse : codecs.Inverse job) :
    SameStores codecs decimal job where
  rows database rowId := by
    rw [Workers.persistTrace, Payloads.parse_build finite inverse]
    rfl
  backfill ι tenantId id := by
    rw [Workers.backfillCache, Payloads.validated_of_some (inverse.request finite),
      Payloads.validated_of_some inverse.response]
    rfl

/-- A worker has the effect the gateway would have exactly if tracing is off or there are no spans. -/
theorem worker_sameEffect_iff (codecs : Codecs) (decimal : Char → Option (Fin 10)) (settings : TracingSettings)
    (job : TraceJob) (finite : job.request.Finite) (inverse : codecs.Inverse job) :
    SameEffect codecs decimal settings job ↔ settings.tracingEnabled = false ∨ job.spans = [] := by
  refine ⟨fun same => same.silent inverse, fun silent => ⟨worker_sameStores finite inverse, ?_⟩⟩
  intro κ tracer tracer' draw draw'
  have ended : (InProcess.exportSpans codecs settings tracer draw job.spans).ended = [] := by
    refine List.eq_nil_of_length_eq_zero ?_
    rw [length_ended_inProcess]
    rcases silent with off | empty
    · rw [off]
      rfl
    · rw [empty]
      exact ite_self 0
  refine ⟨_, exportOtelSpans_build inverse tracer' draw', ⟨id, Function.injective_id, ?_⟩, ?_⟩
  · rw [ended_worker, ended]
    rfl
  · exact posted_congr inverse _ _

end parity

section sample

theorem sampleTrace_inverse : sampleCodecs.Inverse sampleTrace where
  startedAt := by decide
  endedAt := by decide
  request _ := rfl
  response := rfl

/-- Langfuse is on, and OpenTelemetry is not. -/
def langfuseOnly : TracingSettings where
  tracingEnabled := false
  langfuseEnabled := true
  langfusePublicKey := some "public"
  langfuseSecretKey := some "secret"

theorem sampleTrace_sameEffect : SameEffect sampleCodecs (fun _ => none) langfuseOnly sampleTrace :=
  (worker_sameEffect_iff sampleCodecs (fun _ => none) langfuseOnly sampleTrace ⟨by decide, by decide⟩
    sampleTrace_inverse).mpr (.inl rfl)

/-- With the default settings the two spans of a chat are lost. -/
theorem sampleTrace_unexported :
    (sampleTrace.request.Finite ∧ sampleCodecs.Inverse sampleTrace) ∧
      ¬ SameEffect sampleCodecs (fun _ => none) {} sampleTrace := by
  refine ⟨⟨⟨by decide, by decide⟩, sampleTrace_inverse⟩, fun same => ?_⟩
  rcases same.silent sampleTrace_inverse with off | empty
  · exact absurd off (by decide)
  · exact List.cons_ne_nil _ _ empty

end sample

end LlmopsGateway
