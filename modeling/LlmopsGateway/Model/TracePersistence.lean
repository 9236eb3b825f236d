import LlmopsGateway.Machine.Table
import LlmopsGateway.Model.ChatResponse
import LlmopsGateway.Model.Gateway
import LlmopsGateway.Model.PyJson
import LlmopsGateway.Model.PyUuid
import Mathlib.Logic.Function.Basic

/-! # Writing the audit log

`TracePersistenceService.persist`, as an arq worker or the in-process fallback runs it for a trace job.
Each delivery is one transaction on a Postgres with read-committed isolation: it reads the committed
rows with its trace id, inserts the request, its spans and its token usage, and commits. Any number of
deliveries interleave their statements, and any of them may fail at any statement. The columns are
checked as the schema declares them: lengths, integer and numeric ranges, foreign keys and the primary
key of `requests`; `trace_id` has an index that is not unique.

What the handler of a request finalizes becomes the payload of a trace job, under the trace id that the request
context middleware has given the request.
-/

namespace LlmopsGateway

/-- A span of a trace; times count microseconds. -/
structure TraceSpan where
  traceId : String
  spanId : String
  spanName : String
  startedAt : ℤ
  parentSpanId : Option String := none
  endedAt : Option ℤ := none
  metadata : List (String × Json) := []

namespace TraceSpan

def durationMs (span : TraceSpan) : Option ℚ :=
  span.endedAt.map fun endedAt => ((endedAt - span.startedAt : ℤ) : ℚ) / 1000

end TraceSpan

/-- The arguments of `persist`, which are the fields of a job payload. -/
structure TraceJob where
  traceId : String
  tenantId : String
  apiKeyId : Option String
  httpStatus : ℤ := 200
  request : ChatRequest
  response : ChatResponse
  spans : List TraceSpan

def CacheStatus.value : CacheStatus → String
  | miss => "MISS"
  | exactHit => "EXACT_HIT"
  | semanticHit => "SEMANTIC_HIT"
  | bypassed => "BYPASSED"

structure RequestLogModel where
  id : Uuid
  traceId : String
  tenantId : Uuid
  apiKeyId : Option Uuid
  provider : String
  modelRequested : String
  modelUsed : String
  status : String
  cacheStatus : String
  httpStatus : ℤ
  isStream : Bool
  totalLatencyMs : ℚ
  completedAt : ℕ
deriving DecidableEq

/-- Nothing refers to the ids of the rows of the other two tables. -/
structure RequestSpanModel where
  requestId : Uuid
  spanName : String
  parentSpanId : Option String
  startedAt : ℤ
  endedAt : Option ℤ
  durationMs : Option ℚ
  spanMetadata : List (String × Json)

structure TokenUsageModel where
  requestId : Uuid
  inputTokens : ℤ
  outputTokens : ℤ
  totalTokens : ℤ
  costUsd : ℚ
deriving DecidableEq

def RequestLogModel.conflicts (first second : RequestLogModel) : Bool := first.id = second.id

namespace Schema

/-- `String(length)`; Postgres stores no NUL. -/
def string (length : ℕ) (text : String) : Bool := text.length ≤ length && !text.toList.contains '\x00'

def integer (value : ℤ) : Bool := -2 ^ 31 ≤ value && value < 2 ^ 31

/-- `Numeric(12, 6)`: at most six digits in front of the point after rounding to six behind it. -/
def numeric (value : ℚ) : Bool := 2 * 10 ^ 6 * |value| < 2 * 10 ^ 12 - 1

mutual

/-- Postgres' `json` has no infinity and no NaN. -/
def json : Json → Bool
  | .float value => !value.text.toList.contains 'n'
  | .arr items => jsonItems items
  | .obj fields => jsonFields fields
  | _ => true

def jsonItems : List Json → Bool
  | [] => true
  | item :: rest => json item && jsonItems rest

def jsonFields : List (String × Json) → Bool
  | [] => true
  | (_, value) :: rest => json value && jsonFields rest

end

end Schema

namespace RequestLogModel

def storable (row : RequestLogModel) : Bool :=
  Schema.string 64 row.traceId && Schema.string 64 row.provider && Schema.string 128 row.modelRequested &&
    Schema.string 128 row.modelUsed && Schema.integer row.httpStatus

end RequestLogModel

def RequestSpanModel.storable (row : RequestSpanModel) : Bool :=
  Schema.string 128 row.spanName && row.parentSpanId.all (Schema.string 128) &&
    Schema.jsonFields row.spanMetadata

def TokenUsageModel.storable (row : TokenUsageModel) : Bool :=
  Schema.integer row.inputTokens && Schema.integer row.outputTokens && Schema.integer row.totalTokens &&
    Schema.numeric row.costUsd

/-- The committed rows of the tables, in the order of their commits, and the keys they refer to. -/
structure Database where
  tenants : Uuid → Bool
  apiKeys : Uuid → Bool
  requests : Machine.Table RequestLogModel RequestLogModel.conflicts
  spans : List RequestSpanModel
  usages : List TokenUsageModel

/-- A database that nothing has been logged to. -/
def Database.unused (tenants apiKeys : Uuid → Bool) : Database where
  tenants := tenants
  apiKeys := apiKeys
  requests := Machine.Table.empty
  spans := []
  usages := []

namespace TracePersistence

variable (decimal : Char → Option (Fin 10))

/-- The columns of the request row. -/
def requestRow (job : TraceJob) (id tenantId : Uuid) (apiKeyId : Option Uuid) : RequestLogModel where
  id := id
  traceId := job.traceId
  tenantId := tenantId
  apiKeyId := apiKeyId
  provider := job.response.provider
  modelRequested := job.request.model
  modelUsed := job.response.model
  status := if job.httpStatus < 400 then "ok" else "error"
  cacheStatus := job.response.cacheStatus.value
  httpStatus := job.httpStatus
  isStream := job.request.stream
  totalLatencyMs := job.response.latencyMs
  completedAt := job.response.createdAt

def spanRow (requestId : Uuid) (span : TraceSpan) : RequestSpanModel where
  requestId := requestId
  spanName := span.spanName
  parentSpanId := span.parentSpanId
  startedAt := span.startedAt
  endedAt := span.endedAt
  durationMs := span.durationMs
  spanMetadata := span.metadata

def usageRow (requestId : Uuid) (response : ChatResponse) : TokenUsageModel where
  requestId := requestId
  inputTokens := response.usage.inputTokens
  outputTokens := response.usage.outputTokens
  totalTokens := response.usage.inputTokens + response.usage.outputTokens
  costUsd := response.costUsd

/-- `uuid.UUID(api_key_id) if api_key_id else None`; the outer `none` is the `ValueError`. -/
def apiKeyOf (job : TraceJob) : Option (Option Uuid) :=
  match job.apiKeyId.filter (· ≠ "") with
  | none => some none
  | some text => (Uuid.parse decimal text.toList).map some

/-- The rows with a trace id. -/
def withTraceId (requests : List RequestLogModel) (traceId : String) : List RequestLogModel :=
  requests.filter (·.traceId = traceId)

/-- `request_repo.create`: the row, if it can be inserted. -/
def createRequest (database : Database) (job : TraceJob) (tenantId id : Uuid) : Option RequestLogModel :=
  match apiKeyOf decimal job with
  | none => none
  | some apiKeyId =>
    let row := requestRow job id tenantId apiKeyId
    if database.tenants tenantId && apiKeyId.all database.apiKeys && row.storable then some row else none

/-- `bulk_create`. -/
def createSpans (job : TraceJob) (requestId : Uuid) : Option (List RequestSpanModel) :=
  let rows := job.spans.map (spanRow requestId)
  if rows.all RequestSpanModel.storable then some rows else none

/-- `TokenUsageRepository.create`. -/
def createUsage (job : TraceJob) (requestId : Uuid) : Option TokenUsageModel :=
  let row := usageRow requestId job.response
  if row.storable then some row else none

/-- `COMMIT`; a primary key that another transaction has committed meanwhile fails it at the latest. -/
def commit (database : Database) (row : RequestLogModel) (spans : List RequestSpanModel)
    (usage : TokenUsageModel) : Option Database :=
  (database.requests.insert row).map fun requests =>
    { database with
      requests
      spans := database.spans ++ spans
      usages := database.usages ++ [usage] }

/-- `persist` in one go, as it runs when no other transaction does; `none` is an exception, which rolls
back. -/
def persist (database : Database) (job : TraceJob) (rowId : Uuid) : Option Database :=
  match Uuid.parse decimal job.tenantId.toList with
  | none => some database
  | some tenantId =>
    match withTraceId database.requests.rows job.traceId with
    | [] => do
      let row ← createRequest decimal database job tenantId rowId
      let spans ← createSpans job row.id
      let usage ← createUsage job row.id
      commit database row spans usage
    | [_] => some database
    | _ => none

/-- Where a delivery stands, with the rows it has inserted. It ends by returning early, by its commit or
with an exception. -/
inductive Phase
  | idle
  | reading (tenantId : Uuid)
  | creating (tenantId : Uuid)
  | spanning (row : RequestLogModel)
  | counting (row : RequestLogModel) (spans : List RequestSpanModel)
  | committing (row : RequestLogModel) (spans : List RequestSpanModel) (usage : TokenUsageModel)
  | skipped
  | committed
  | raised

/-- `overtaken` is history: whether a transaction has committed since the delivery's `SELECT`. -/
structure State where
  database : Database
  phases : ℕ → Phase := fun _ => .idle
  overtaken : ℕ → Bool := fun _ => false

inductive Label
  | start (id : ℕ)
  | select (id : ℕ)
  | createRequest (id : ℕ) (rowId : Uuid)
  | createSpans (id : ℕ)
  | createUsage (id : ℕ)
  | commit (id : ℕ)
  | fail (id : ℕ)

namespace State

def goto (state : State) (id : ℕ) (next : Phase) : State :=
  { state with phases := Function.update state.phases id next }

/-- Go on with a value, or end with an exception. -/
def continueWith {α : Type} (state : State) (id : ℕ) (next : α → Phase) : Option α → State
  | some value => state.goto id (next value)
  | none => state.goto id .raised

end State

/-- Whether a delivery has an open transaction. -/
def Phase.isOpen : Phase → Bool
  | reading _ | creating _ | spanning _ | counting .. | committing .. => true
  | _ => false

/-- One step of the delivery `id` of `jobs id`. -/
def step (jobs : ℕ → TraceJob) (state : State) : Label → Option State
  | .start id =>
    match state.phases id with
    | .idle =>
      some (match Uuid.parse decimal (jobs id).tenantId.toList with
        | none => state.goto id .skipped
        | some tenantId => state.goto id (.reading tenantId))
    | _ => none
  | .select id =>
    match state.phases id with
    | .reading tenantId =>
      let read := { state with overtaken := Function.update state.overtaken id false }
      some (match withTraceId state.database.requests.rows (jobs id).traceId with
        | [] => read.goto id (.creating tenantId)
        | [_] => read.goto id .skipped
        | _ => read.goto id .raised)
    | _ => none
  | .createRequest id rowId =>
    match state.phases id with
    | .creating tenantId =>
      some (state.continueWith id .spanning (createRequest decimal state.database (jobs id) tenantId rowId))
    | _ => none
  | .createSpans id =>
    match state.phases id with
    | .spanning row => some (state.continueWith id (.counting row) (createSpans (jobs id) row.id))
    | _ => none
  | .createUsage id =>
    match state.phases id with
    | .counting row spans =>
      some (state.continueWith id (.committing row spans) (createUsage (jobs id) row.id))
    | _ => none
  | .commit id =>
    match state.phases id with
    | .committing row spans usage =>
      some (match commit state.database row spans usage with
        | some database => { state with database, overtaken := fun _ => true }.goto id .committed
        | none => state.goto id .raised)
    | _ => none
  | .fail id => if (state.phases id).isOpen then some (state.goto id .raised) else none

end TracePersistence

/-- `request_context_middleware_dispatch`: the `X-Trace-Id` header, or else a new id. -/
def RequestContext.traceId (header : Option String) (uuid : Uuid) : String :=
  (header.filter (· ≠ "")).getD uuid.str

/-- What a handler finalizes. -/
def auditEntries (events : List Event) : List AuditEntry :=
  events.filterMap fun
    | .finalized entry => some entry
    | _ => none

/-- `build_trace_job_payload`, as `_finalize` calls it. -/
def AuditEntry.traceJob (entry : AuditEntry) (traceId : String) (spans : List TraceSpan) : TraceJob where
  traceId := traceId
  tenantId := entry.tenantId
  apiKeyId := entry.apiKeyId
  httpStatus := 200
  request := entry.request
  response := entry.response
  spans := spans

/-- The delivery of a trace job; when it raises, the database keeps what was committed before. -/
def TracePersistence.deliver (decimal : Char → Option (Fin 10)) (database : Database) (job : TraceJob)
    (rowId : Uuid) : Database :=
  (persist decimal database job rowId).getD database

end LlmopsGateway
