import LlmopsGateway.Model.Payloads
import LlmopsGateway.Model.TracedGateway

/-! # The Langfuse batch of a trace

`LangfuseExporter`, as far as what it posts. The time of the export and the ids of its events are given with
each call; the POST itself fails or is answered, and neither is told to the caller.
-/

namespace LlmopsGateway

/-- The spans of a request when its handler has ended. -/
def TracedGateway.spans (floats : CostFloats) (pricing : Pricing) (visit : Visit) (traceId : String)
    (now : ℕ → ℤ) :
    List TraceSpan :=
  ((Machine.run? (TracingService.step traceId now) {} (Machine.Logged.notes (handle floats pricing visit))).map
    (·.spans)).getD []

namespace LangfuseExporter

open Payloads

/-- One call of `export`: `datetime.now` and `uuid.uuid4`. -/
structure Draw where
  now : ℤ
  uuid : ℕ → Uuid

variable (codecs : Codecs) (draw : Draw)

def event (index : ℕ) (type : String) (body : List (String × Json)) : Json :=
  .obj
    [("id", .str (draw.uuid index).str),
      ("timestamp", .str (codecs.isoformat draw.now)),
      ("type", .str type),
      ("body", .obj body)]

def traceCreate (traceId : String) : Json :=
  event codecs draw 0 "trace-create"
    [("id", .str traceId), ("name", .str "chat_completion"), ("timestamp", .str (codecs.isoformat draw.now))]

def spanCreate (index : ℕ) (span : TraceSpan) : Json :=
  event codecs draw (index + 1) "span-create"
    [("id", .str span.spanId),
      ("traceId", .str span.traceId),
      ("parentObservationId", optional span.parentSpanId),
      ("name", .str span.spanName),
      ("startTime", .str (codecs.isoformat span.startedAt)),
      ("endTime", optional (span.endedAt.map codecs.isoformat)),
      ("metadata", .obj span.metadata)]

/-- `_build_events`, for spans of which `first` is the first. -/
def buildEvents (first : TraceSpan) (spans : List TraceSpan) : List Json :=
  traceCreate codecs draw first.traceId :: spans.mapIdx fun index span => spanCreate codecs draw index span

/-- What `export` posts, if anything. -/
def posted : List TraceSpan → Option Json
  | [] => none
  | first :: rest => some (.obj [("batch", .arr (buildEvents codecs draw first (first :: rest)))])

end LangfuseExporter

end LlmopsGateway
