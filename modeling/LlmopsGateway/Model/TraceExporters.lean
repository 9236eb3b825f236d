import LlmopsGateway.Model.LangfuseExporter
import LlmopsGateway.Model.Tracing

/-! # The exporters of a process

`build_trace_exporters`, and the process its exporters run in. An `OtelTraceExporter` only makes spans with the
tracer of its process: `lifespan` of the gateway sets a provider, `startup` of the workers does not, and the
provider that OpenTelemetry falls back to (no `OTEL_PYTHON_TRACER_PROVIDER` is set) records nothing.
-/

namespace LlmopsGateway

/-- `Settings`, as far as traces are concerned. -/
structure TracingSettings where
  otelServiceName : String := "llmops-gateway"
  tracingEnabled : Bool := true
  langfuseEnabled : Bool := false
  langfusePublicKey : Option String := none
  langfuseSecretKey : Option String := none
  langfuseHost : String := "https://cloud.langfuse.com"

/-- The host and the keys of a `LangfuseExporter`. -/
structure LangfuseAccount where
  publicKey : String
  secretKey : String
  host : String
deriving DecidableEq, Repr

inductive TraceExporter
  | otel
  | langfuse (account : LangfuseAccount)
deriving DecidableEq, Repr

/-- A provider with the OTLP exporter behind it. -/
structure TracerProvider where
  serviceName : String
deriving DecidableEq, Repr

namespace TracingSettings

variable (settings : TracingSettings)

/-- The account in force: the switch is on and neither key is missing or empty. The slashes at the end of the
host are taken off. -/
def langfuseAccount : Option LangfuseAccount := do
  let publicKey ← settings.langfusePublicKey.filter fun key => key ≠ ""
  let secretKey ← settings.langfuseSecretKey.filter fun key => key ≠ ""
  if settings.langfuseEnabled then
    some ⟨publicKey, secretKey, String.ofList (settings.langfuseHost.toList.rdropWhile fun char => char = '/')⟩
  else none

def buildTraceExporters : List TraceExporter :=
  (if settings.tracingEnabled then [.otel] else []) ++
    (settings.langfuseAccount.map TraceExporter.langfuse).toList

def configureOtel : Option TracerProvider :=
  if settings.tracingEnabled then some ⟨settings.otelServiceName⟩ else none

end TracingSettings

/-- What the observability backends are given: the spans that recording tracers have ended, and the batches
posted to Langfuse. -/
structure Telemetry (κ : Type) where
  ended : List (OtelSpan κ) := []
  posted : List (LangfuseAccount × Json) := []

/-- A process: the provider it has set, if any, what such a provider's tracers draw on, with the span that is
current where exporters are awaited, and what `LangfuseExporter` draws on. -/
structure ExportProcess (κ : Type) where
  provider : Option TracerProvider
  tracer : OtelTraceExporter κ
  draw : LangfuseExporter.Draw

variable {κ : Type}

/-- `export` of an exporter. The spans of a process without a provider are not recorded. -/
def TraceExporter.exportSpans (codecs : Codecs) (process : ExportProcess κ) (spans : List TraceSpan)
    (telemetry : Telemetry κ) : TraceExporter → Telemetry κ
  | .otel =>
    match process.provider with
    | none => telemetry
    | some _ => { telemetry with ended := process.tracer.exportSpans spans telemetry.ended }
  | .langfuse account =>
    { telemetry with
      posted := telemetry.posted ++
        ((LangfuseExporter.posted codecs process.draw spans).map fun batch => (account, batch)).toList }

/-- The loop over the exporters, which the closure of the gateway and the task of the workers both have. -/
def ExportProcess.exportSpans (codecs : Codecs) (settings : TracingSettings) (process : ExportProcess κ)
    (spans : List TraceSpan) : Telemetry κ :=
  settings.buildTraceExporters.foldl
    (fun telemetry exporter => exporter.exportSpans codecs process spans telemetry) {}

section processes

variable (codecs : Codecs) (settings : TracingSettings) (tracer : OtelTraceExporter κ)
  (draw : LangfuseExporter.Draw)

/-- The process of the gateway when `lifespan` has started it. -/
def InProcess.lifespan : ExportProcess κ := ⟨settings.configureOtel, tracer, draw⟩

/-- The process of a worker when `startup` is done. -/
def Workers.startup : ExportProcess κ := ⟨none, tracer, draw⟩

/-- The closure `export` of `_finalize`. -/
def InProcess.exportSpans (spans : List TraceSpan) : Telemetry κ :=
  (lifespan settings tracer draw).exportSpans codecs settings spans

/-- `export_otel_spans`. -/
def Workers.exportOtelSpans (tracePayload : Json) : Except PayloadError (Telemetry κ) := do
  let spans ← Payloads.item tracePayload "spans" >>= Payloads.spansFromPayload codecs
  .ok ((startup tracer draw).exportSpans codecs settings spans)

end processes

end LlmopsGateway
