import LlmopsGateway.Model.CacheLayer
import LlmopsGateway.Model.TracePersistence

/-! # Job payloads and the two ways to run a job

`workers/payloads.py` with the arq tasks that read its payloads, next to the closures `GatewayService`
hands over for the in-process fallback. `isoformat`, `fromisoformat` and pydantic's dump and validation are
parameters. `TraceSpan` and the arguments of `persist` are not checked by Python; here reading stops at a
value of another type, which no built payload has.
-/

namespace LlmopsGateway

/-- A `ValueError` of `fromisoformat`, or another exception of data of the wrong shape. -/
inductive PayloadError
  | isoformat
  | shape (error : ShapeError)
deriving DecidableEq, Repr

/-- The texts of instants and pydantic's JSON forms, with `none` for an error; the empty text is no
instant. -/
structure Codecs where
  isoformat : ℤ → String
  fromisoformat : String → Option ℤ
  fromisoformat_empty : fromisoformat "" = none := by rfl
  dumpRequest : ChatRequest → Json
  validateRequest : Json → Option ChatRequest
  dumpResponse : ChatResponse → Json
  validateResponse : Json → Option ChatResponse

namespace Payloads

/-- `None` or a text. -/
def optional (text : Option String) : Json := text.elim .null .str

section reading

variable (payload : Json) (key : String)

/-- `payload[key]`. -/
def item : Except PayloadError Json := (payload.getItem key).mapError .shape

def text : Json → Except PayloadError String
  | .str text => .ok text
  | _ => .error (.shape .typeError)

def text? : Json → Except PayloadError (Option String)
  | .null => .ok none
  | .str text => .ok (some text)
  | _ => .error (.shape .typeError)

def integer : Json → Except PayloadError ℤ
  | .int value => .ok value
  | _ => .error (.shape .typeError)

def dict : Json → Except PayloadError (List (String × Json))
  | .obj fields => .ok fields
  | _ => .error (.shape .typeError)

/-- `payload.get(key, default)`. -/
def get (default : Json) : Except PayloadError Json := (payload.getD key default).mapError .shape

end reading

variable (codecs : Codecs)

/-- `datetime.fromisoformat`. -/
def instant : Json → Except PayloadError ℤ
  | .str text =>
    match codecs.fromisoformat text with
    | some time => .ok time
    | none => .error .isoformat
  | _ => .error (.shape .typeError)

def spanToPayload (span : TraceSpan) : Json :=
  .obj
    [("trace_id", .str span.traceId),
      ("span_id", .str span.spanId),
      ("span_name", .str span.spanName),
      ("parent_span_id", optional span.parentSpanId),
      ("started_at", .str (codecs.isoformat span.startedAt)),
      ("ended_at", optional (span.endedAt.map codecs.isoformat)),
      ("metadata", .obj span.metadata)]

def spansToPayload (spans : List TraceSpan) : Json := .arr (spans.map (spanToPayload codecs))

/-- `if item.get("ended_at")`: a missing or empty text leaves the span open. -/
def endedAt (payload : Json) : Except PayloadError (Option ℤ) := do
  let ended ← get payload "ended_at" .null
  if ended.truthy then
    let ended ← item payload "ended_at"
    let time ← instant codecs ended
    .ok (some time)
  else .ok none

def spanFromPayload (payload : Json) : Except PayloadError TraceSpan := do
  let traceId ← item payload "trace_id" >>= text
  let spanId ← item payload "span_id" >>= text
  let spanName ← item payload "span_name" >>= text
  let parentSpanId ← get payload "parent_span_id" .null >>= text?
  let startedAt ← item payload "started_at" >>= instant codecs
  let metadata ← get payload "metadata" (.obj []) >>= dict
  let endedAt ← endedAt codecs payload
  .ok { traceId, spanId, spanName, startedAt, parentSpanId, endedAt, metadata }

def spansFromPayload (payload : Json) : Except PayloadError (List TraceSpan) := do
  let items ← payload.iterate.mapError .shape
  items.mapM (spanFromPayload codecs)

def buildTraceJobPayload (job : TraceJob) : Json :=
  .obj
    [("trace_id", .str job.traceId),
      ("tenant_id", .str job.tenantId),
      ("api_key_id", optional job.apiKeyId),
      ("http_status", .int job.httpStatus),
      ("request", codecs.dumpRequest job.request),
      ("response", codecs.dumpResponse job.response),
      ("spans", spansToPayload codecs job.spans)]

/-- `model_validate`. -/
def validated {α : Type} (validate : Json → Option α) (data : Json) : Except PayloadError α :=
  match validate data with
  | some value => .ok value
  | none => .error (.shape .validation)

def parseTraceJobPayload (payload : Json) : Except PayloadError TraceJob := do
  let traceId ← item payload "trace_id" >>= text
  let tenantId ← item payload "tenant_id" >>= text
  let apiKeyId ← get payload "api_key_id" .null >>= text?
  let httpStatus ← item payload "http_status" >>= integer
  let request ← item payload "request" >>= validated codecs.validateRequest
  let response ← item payload "response" >>= validated codecs.validateResponse
  let spans ← item payload "spans" >>= spansFromPayload codecs
  .ok { traceId, tenantId, apiKeyId, httpStatus, request, response, spans }

end Payloads

namespace Workers

variable (codecs : Codecs)

/-- `persist_trace`; `none` is an exception, which leaves the database as it is. -/
def persistTrace (decimal : Char → Option (Fin 10)) (db : Database) (tracePayload : Json) (rowId : Uuid) :
    Option Database :=
  match Payloads.parseTraceJobPayload codecs tracePayload with
  | .error _ => none
  | .ok job => TracePersistence.persist decimal db job rowId

/-- `backfill_cache`, with the call it makes on the `CacheService`. -/
def backfillCache {κ : Type} (requestPayload responsePayload : Json) (tenantId : String) (id : κ) :
    Except PayloadError (CacheLayer.Label κ) := do
  let request ← Payloads.validated codecs.validateRequest requestPayload
  let response ← Payloads.validated codecs.validateResponse responsePayload
  .ok (.start ⟨tenantId, id⟩ (.backfill request response))

end Workers

namespace InProcess

/-- The closure `persist` of `_finalize`. -/
def persist (decimal : Char → Option (Fin 10)) (database : Option Database) (job : TraceJob) (rowId : Uuid) :
    Option (Option Database) :=
  match database with
  | none => some none
  | some database => (TracePersistence.persist decimal database job rowId).map some

/-- The closure `backfill` of `_schedule_backfill`. -/
def backfill {κ : Type} (request : ChatRequest) (response : ChatResponse) (tenantId : String) (id : κ) :
    CacheLayer.Label κ :=
  .start ⟨tenantId, id⟩ (.backfill request response)

end InProcess

end LlmopsGateway
