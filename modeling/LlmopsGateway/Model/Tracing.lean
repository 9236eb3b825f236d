import LlmopsGateway.Machine.Run
import LlmopsGateway.Model.JsonText
import LlmopsGateway.Model.Payloads
import LlmopsGateway.Model.ProviderStream

/-! # Spans of a trace

`TracingService.span` as programs use it, and `OtelTraceExporter`. A program is a tree of `with` blocks, whose
bodies may raise; what it does to the `TracingService` is a list of labels. Clock readings are arbitrary, and
so are the identities OpenTelemetry gives to its spans.
-/

namespace LlmopsGateway

namespace TraceSpan

/-- `span.metadata[key] = value`. -/
def annotate (key : String) (value : Json) (span : TraceSpan) : TraceSpan :=
  { span with metadata := JsonText.insert span.metadata (key, value) }

def finish (endedAt : ℤ) (span : TraceSpan) : TraceSpan := { span with endedAt := some endedAt }

end TraceSpan

namespace TracingService

/-- `spans`, the places of those whose blocks are not left yet, innermost first, and the number of clock
readings. -/
structure State where
  spans : List TraceSpan := []
  blocks : List ℕ := []
  readings : ℕ := 0

/-- The `span_id` of a span before which there are `count` others. -/
def spanId (traceId name : String) (count : ℕ) : String := traceId ++ ":" ++ name ++ ":" ++ toString count

/-- A block is entered, with the place of a span that is there as its parent, or the innermost one is left. -/
inductive Label
  | enter (name : String) (parent : Option ℕ)
  | annotate (place : ℕ) (key : String) (value : Json)
  | leave

section step

variable (traceId : String) (now : ℕ → ℤ) (state : State)

/-- The span of a block. -/
def opened (name : String) (parent : Option ℕ) : TraceSpan where
  traceId := traceId
  spanId := spanId traceId name state.spans.length
  spanName := name
  startedAt := now state.readings
  parentSpanId := parent.bind fun place => state.spans[place]?.map TraceSpan.spanId

def step : Label → Option State
  | .enter name parent =>
    some
      { spans := state.spans ++ [opened traceId now state name parent]
        blocks := state.spans.length :: state.blocks
        readings := state.readings + 1 }
  | .annotate place key value =>
    some { state with spans := state.spans.modify place (TraceSpan.annotate key value) }
  | .leave =>
    match state.blocks with
    | [] => none
    | place :: blocks =>
      some
        { spans := state.spans.modify place (TraceSpan.finish (now state.readings))
          blocks := blocks
          readings := state.readings + 1 }

end step

/-- A program with its control flow unrolled. The parent of a span is the place of one that was opened
earlier. -/
inductive Block
  | done
  | raise
  | annotate (place : ℕ) (key : String) (value : Json)
  | span (name : String) (parent : Option ℕ) (body : Block)
  | sequence (first second : Block)
  | attempt (body handler : Block)

inductive Exit
  | returned
  | raised
deriving DecidableEq, Repr

/-- The labels of a program, and how it ends: a block is left either way, and what follows an exception is not
run unless it is caught. -/
def Block.run : Block → List Label × Exit
  | done => ([], .returned)
  | raise => ([], .raised)
  | annotate place key value => ([.annotate place key value], .returned)
  | span name parent body =>
    let (labels, exit) := body.run
    (.enter name parent :: (labels ++ [.leave]), exit)
  | sequence first second =>
    match first.run with
    | (labels, .raised) => (labels, .raised)
    | (labels, .returned) =>
      let (more, exit) := second.run
      (labels ++ more, exit)
  | attempt body handler =>
    match body.run with
    | (labels, .returned) => (labels, .returned)
    | (labels, .raised) =>
      let (more, exit) := handler.run
      (labels ++ more, exit)

end TracingService

/-- A span of OpenTelemetry; `context` is what identifies it. -/
structure OtelSpan (κ : Type) where
  name : String
  context : κ
  parent : Option κ
  startTime : ℤ
  attributes : List (String × Json)
  endTime : ℤ

/-- An exporter with the contexts its tracer gives to new spans, and the span that is current where `export`
is awaited. -/
structure OtelTraceExporter (κ : Type) where
  spanContext : ℕ → κ
  current : Option κ
  toEpochNanos : ℤ → ℤ
  isPrintable : Char → Bool

namespace OtelTraceExporter

variable {κ : Type} (exporter : OtelTraceExporter κ)

/-- `attr_value`. -/
def attrValue : Json → Json
  | .null => .str (Json.null.toText exporter.isPrintable)
  | .arr items => .str ((Json.arr items).toText exporter.isPrintable)
  | .obj fields => .str ((Json.obj fields).toText exporter.isPrintable)
  | value => value

/-- `_start_span`, with the number of spans the tracer has started. Without a context the parent is the current
span. -/
def startSpan (count : ℕ) (span : TraceSpan) (parentContext : Option κ) : OtelSpan κ where
  name := span.spanName
  context := exporter.spanContext count
  parent := parentContext.or exporter.current
  startTime := exporter.toEpochNanos span.startedAt
  attributes := (span.metadata.map fun (key, value) => (key, exporter.attrValue value)).foldl JsonText.insert
    [("llmops.trace_id", .str span.traceId)]
  endTime := exporter.toEpochNanos (span.endedAt.getD span.startedAt)

/-- `contexts`, and the spans that have been started and ended, by this call or before it. -/
structure Exporting (κ : Type) where
  contexts : String → Option κ := fun _ => none
  emitted : List (OtelSpan κ)

/-- A parent id that is there and not empty. -/
def parentKey (span : TraceSpan) : Option String := span.parentSpanId.filter fun id => id ≠ ""

def exportSpan (exporting : Exporting κ) (span : TraceSpan) : Exporting κ :=
  let parentContext := (parentKey span).bind exporting.contexts
  let otelSpan := exporter.startSpan exporting.emitted.length span parentContext
  { contexts := Function.update exporting.contexts span.spanId (some otelSpan.context)
    emitted := exporting.emitted ++ [otelSpan] }

/-- `export`. -/
def exportSpans (spans : List TraceSpan) (emitted : List (OtelSpan κ)) : List (OtelSpan κ) :=
  (spans.foldl exporter.exportSpan { emitted := emitted }).emitted

end OtelTraceExporter

end LlmopsGateway
