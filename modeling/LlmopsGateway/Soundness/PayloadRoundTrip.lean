import LlmopsGateway.Model.Payloads

/-! # The round trip of payloads

Reading a payload gives back the job it was built from, field by field.
-/

namespace LlmopsGateway

open PyText

/-- Neither infinite nor `nan`. -/
def PyText.PyFloat.Finite (value : PyFloat) : Prop := 'n' ∉ value.text.toList

instance (value : PyFloat) : Decidable value.Finite := inferInstanceAs (Decidable ('n' ∉ value.text.toList))

/-- The floats of a request; those of a response are numbers in the model. -/
structure ChatRequest.Finite (request : ChatRequest) : Prop where
  temperature : request.temperature.Finite
  topP : request.topP.Finite

namespace Codecs

variable (codecs : Codecs)

/-- `fromisoformat` reads the times of a span, and validation takes back what was dumped. -/
structure Inverse (job : TraceJob) : Prop where
  startedAt : ∀ span ∈ job.spans, codecs.fromisoformat (codecs.isoformat span.startedAt) = some span.startedAt
  endedAt : ∀ span ∈ job.spans, ∀ time ∈ span.endedAt, codecs.fromisoformat (codecs.isoformat time) = some time
  request : job.request.Finite → codecs.validateRequest (codecs.dumpRequest job.request) = some job.request
  response : codecs.validateResponse (codecs.dumpResponse job.response) = some job.response

end Codecs

namespace Payloads

variable {codecs : Codecs}

theorem text?_optional (value : Option String) : text? (optional value) = .ok value := by
  cases value <;> rfl

theorem instant_isoformat {time : ℤ} (reads : codecs.fromisoformat (codecs.isoformat time) = some time) :
    instant codecs (.str (codecs.isoformat time)) = .ok time := by
  simp only [instant, reads]

/-- No time is written as the empty text. -/
theorem truthy_isoformat {time : ℤ} (reads : codecs.fromisoformat (codecs.isoformat time) = some time) :
    (Json.str (codecs.isoformat time)).truthy = true := by
  refine decide_eq_true fun empty => ?_
  rw [empty, codecs.fromisoformat_empty] at reads
  contradiction

theorem endedAt_spanToPayload {span : TraceSpan}
    (reads : ∀ time ∈ span.endedAt, codecs.fromisoformat (codecs.isoformat time) = some time) :
    endedAt codecs (spanToPayload codecs span) = .ok span.endedAt := by
  have present : get (spanToPayload codecs span) "ended_at" .null =
      .ok (optional (span.endedAt.map codecs.isoformat)) := rfl
  have again : item (spanToPayload codecs span) "ended_at" =
      .ok (optional (span.endedAt.map codecs.isoformat)) := rfl
  unfold endedAt
  rw [present, again]
  cases ended : span.endedAt with
  | none => rfl
  | some time =>
    have reads := reads time ended
    simp only [Option.map_some, optional, Option.elim, bind, Except.bind, truthy_isoformat reads, if_true,
      instant_isoformat reads]

theorem spanFromPayload_spanToPayload {span : TraceSpan}
    (started : codecs.fromisoformat (codecs.isoformat span.startedAt) = some span.startedAt)
    (ended : ∀ time ∈ span.endedAt, codecs.fromisoformat (codecs.isoformat time) = some time) :
    spanFromPayload codecs (spanToPayload codecs span) = .ok span := by
  have parent : (get (spanToPayload codecs span) "parent_span_id" .null >>= text?) = .ok span.parentSpanId :=
    text?_optional span.parentSpanId
  have startedAt : (item (spanToPayload codecs span) "started_at" >>= instant codecs) = .ok span.startedAt :=
    instant_isoformat started
  unfold spanFromPayload
  rw [parent, startedAt, endedAt_spanToPayload ended]
  rfl

/-- Reading spans that were written gives them back. -/
theorem spansFromPayload_spansToPayload {spans : List TraceSpan}
    (started : ∀ span ∈ spans, codecs.fromisoformat (codecs.isoformat span.startedAt) = some span.startedAt)
    (ended : ∀ span ∈ spans, ∀ time ∈ span.endedAt,
      codecs.fromisoformat (codecs.isoformat time) = some time) :
    spansFromPayload codecs (spansToPayload codecs spans) = .ok spans := by
  have items : spansFromPayload codecs (spansToPayload codecs spans) =
      (spans.map (spanToPayload codecs)).mapM (spanFromPayload codecs) := rfl
  rw [items]
  induction spans with
  | nil => rfl
  | cons span rest ih =>
    have first := spanFromPayload_spanToPayload (started span (List.mem_cons_self ..))
      (ended span (List.mem_cons_self ..))
    have others := ih (fun other member => started other (List.mem_cons_of_mem _ member))
      (fun other member => ended other (List.mem_cons_of_mem _ member)) rfl
    rw [List.map_cons, List.mapM_cons, first, others]
    rfl

theorem validated_of_some {α : Type} {validate : Json → Option α} {data : Json} {value : α}
    (valid : validate data = some value) : validated validate data = .ok value := by
  simp only [validated, valid]

/-- A worker reads the job a payload was built from. -/
theorem parse_build {job : TraceJob} (finite : job.request.Finite) (inverse : codecs.Inverse job) :
    parseTraceJobPayload codecs (buildTraceJobPayload codecs job) = .ok job := by
  have apiKeyId : (get (buildTraceJobPayload codecs job) "api_key_id" .null >>= text?) = .ok job.apiKeyId :=
    text?_optional job.apiKeyId
  have request : (item (buildTraceJobPayload codecs job) "request" >>= validated codecs.validateRequest) =
      .ok job.request := validated_of_some (inverse.request finite)
  have response : (item (buildTraceJobPayload codecs job) "response" >>= validated codecs.validateResponse) =
      .ok job.response := validated_of_some inverse.response
  have spans : (item (buildTraceJobPayload codecs job) "spans" >>= spansFromPayload codecs) = .ok job.spans :=
    spansFromPayload_spansToPayload inverse.startedAt inverse.endedAt
  unfold parseTraceJobPayload
  rw [apiKeyId, request, response, spans]
  rfl

end Payloads

section sample

/-- A traced chat with a span that has ended and one inside it that has not. -/
def sampleTrace : TraceJob where
  traceId := "trace"
  tenantId := "00000000-0000-0000-0000-000000000001"
  apiKeyId := none
  request := { model := "m", messages := [⟨.user, "hi"⟩], stop := some ["end"] }
  response := {
    id := "r"
    model := "m"
    provider := "openai"
    message := ⟨.assistant, "hello"⟩
    usage := ⟨1, 1⟩
    costUsd := 0
    traceId := "trace"
    createdAt := 0
    latencyMs := 0 }
  spans := [
    { traceId := "trace", spanId := "a", spanName := "upstream_call", startedAt := 0, endedAt := some 5 },
    { traceId := "trace", spanId := "b", spanName := "retry", startedAt := 0, parentSpanId := some "a",
      metadata := [("provider", .str "openai")] }]

def sampleRequestJson : Json :=
  .obj [("model", .str "m"), ("messages", .arr [.obj [("role", .str "user"), ("content", .str "hi")]]),
    ("temperature", .float { text := "1.0" }), ("max_tokens", .null), ("top_p", .float { text := "1.0" }),
    ("stream", .bool false), ("stop", .arr [.str "end"]), ("cache_bypass", .bool false),
    ("provider_override", .null), ("adapter_id", .null), ("model_alias", .null), ("adapter_stage", .null)]

def sampleResponseJson : Json :=
  .obj [("id", .str "r"), ("model", .str "m"), ("provider", .str "openai"),
    ("message", .obj [("role", .str "assistant"), ("content", .str "hello")]),
    ("usage", .obj [("input_tokens", .int 1), ("output_tokens", .int 1)]),
    ("cost_usd", .float { text := "0.0" }),
    ("cache_status", .str "MISS"), ("trace_id", .str "trace"), ("created_at", .str "1970-01-01T00:00:00Z"),
    ("latency_ms", .float { text := "0.0" }), ("adapter_id", .null), ("model_alias", .null),
    ("adapter_stage", .null)]

/-- The library on this trace. -/
def sampleCodecs : Codecs where
  isoformat time := if time = 0 then "1970-01-01T00:00:00+00:00" else "1970-01-01T00:00:00.000005+00:00"
  fromisoformat text :=
    if text = "1970-01-01T00:00:00+00:00" then some 0
    else if text = "1970-01-01T00:00:00.000005+00:00" then some 5 else none
  dumpRequest _ := sampleRequestJson
  validateRequest data := if data.getItem "model" matches .ok (.str "m") then some sampleTrace.request else none
  dumpResponse _ := sampleResponseJson
  validateResponse data := if data.getItem "id" matches .ok (.str "r") then some sampleTrace.response else none

end sample

end LlmopsGateway
