import LlmopsGateway.Model.TracePersistence
import LlmopsGateway.Model.Middleware

/-! # The response to a chat completion

`create_chat_completion` behind the middleware, with the exception handlers and the headers of its responses.
Starlette keeps header values as Latin-1, and runs the handler of `Exception` around all middleware, where the
request context has no part in the response any more. The body of a stream is left out.
-/

namespace LlmopsGateway

open Middleware

inductive ResponseBody
  | completion (response : ChatResponse)
  | stream
  | error (response : ErrorResponse)

abbrev Headers := List (String × String)

structure HttpResponse where
  statusCode : ℕ
  headers : Headers
  body : ResponseBody

/-- `value.encode("latin-1")` does not raise. -/
def isLatin1 (value : String) : Bool := value.toList.all fun c => c.toNat < 256

namespace Headers

/-- `headers[name] = value`, with `none` for the `UnicodeEncodeError`. -/
def set (name value : String) (headers : Headers) : Option Headers :=
  if isLatin1 value then
    some ((headers.filter fun header => lower header.1 ≠ lower name) ++ [(name, value)])
  else none

def setWhen (condition : Bool) (name value : String) (headers : Headers) : Option Headers :=
  if condition then headers.set name value else some headers

/-- `if value: headers[name] = value`. -/
def setIf (name : String) (value : Option String) (headers : Headers) : Option Headers :=
  headers.setWhen (GatewayService.truthy value) name (value.getD "")

def get? (name : String) (headers : Headers) : Option String :=
  (headers.find? fun header => lower header.1 = lower name).map Prod.snd

end Headers

namespace Middleware.ErrorResponse

/-- `_error_response`, which sets the `Retry-After` header for a 429. -/
def toHttp (response : ErrorResponse) : HttpResponse where
  statusCode := response.statusCode
  headers := (response.retryAfterSeconds.map fun seconds => ("Retry-After", toString seconds)).toList
  body := .error response

end Middleware.ErrorResponse

namespace ChatEndpoint

/-- `f"{cost:.6f}"`. -/
structure CostText where
  text : ℚ → String
  isLatin1 : ∀ cost, LlmopsGateway.isLatin1 (text cost) = true

/-- The handlers of `ProviderError` and `AllProvidersExhaustedError`; other exceptions have none here. -/
def exceptionHandler (state : RequestState) : Raised → Option ErrorResponse
  | .provider _ =>
    some
      { statusCode := 502, error := "upstream_provider_error", traceId := state.traceId
        message := "Upstream provider request failed" }
  | .exhausted _ =>
    some
      { statusCode := 503, error := "service_unavailable", traceId := state.traceId
        message := "All upstream providers are unavailable" }
  | _ => none

/-- The headers of a completion. -/
def completionHeaders (costText : CostText) (result : ChatResponse) : Option Headers := do
  let headers ← Headers.set "X-Trace-Id" result.traceId []
  let headers ← headers.set "X-Cache-Status" result.cacheStatus.value
  let headers ← headers.set "X-Request-Cost" (costText.text result.costUsd)
  let headers ← headers.setIf "X-Adapter-Id" result.adapterId
  let headers ← headers.setIf "X-Model-Alias" result.modelAlias
  let headers ← headers.setWhen (GatewayService.truthy result.modelAlias) "X-Base-Model" result.model
  headers.setIf "X-Adapter-Stage" result.adapterStage

/-- What the endpoint passes to the gateway of the request state. -/
def environment (base : Environment) (state : RequestState) : Environment :=
  { base with
    traceId := state.traceId.getD ""
    tenantId := (state.tenantId.filter (· ≠ "")).getD defaultTenantId
    apiKeyId := state.apiKeyId }

variable (costText : CostText) (pricing : Pricing) (base : Environment) (payload : ChatRequest)

/-- `create_chat_completion`: its response, or none where an exception is left, and what its handler has
done. -/
def createChatCompletion (state : RequestState) : Option HttpResponse × List Event :=
  let env := environment base state
  if payload.stream then
    ((Headers.set "X-Trace-Id" env.traceId []).map fun headers => ⟨200, headers, .stream⟩, [])
  else
    let run := GatewayService.handleChatCompletion pricing env payload
    match run.outcome with
    | .ok result =>
      ((completionHeaders costText result).map fun headers => ⟨200, headers, .completion result⟩, run.events)
    | .error error => ((exceptionHandler state error).map ErrorResponse.toHttp, run.events)

/-- `trace_id` in `request_context_middleware_dispatch`. -/
def requestTraceId (request : Request) : String :=
  ((request.header "X-Trace-Id").filter (· ≠ "")).getD request.uuid

/-- The end of `request_context_middleware_dispatch`; where there is no response, the outermost handler makes
one. -/
def finish (request : Request) (response : Option HttpResponse) : HttpResponse :=
  let traced := do
    let response ← response
    let headers ← Headers.set "X-Trace-Id" (requestTraceId request) response.headers
    return { response with headers }
  traced.getD (internalErrorResponse { traceId := some (requestTraceId request) }).toHttp

/-- The response to a request, and what its handler has done. A middleware that answers 500 has let an exception
pass. -/
def serve (deployment : Deployment) (request : Request) (stores : Stores) : HttpResponse × List Event :=
  match (Middleware.handle deployment request stores).1 with
  | .ran state =>
    let (response, events) := createChatCompletion costText pricing base payload state
    (finish request response, events)
  | .error response => (finish request (if response.statusCode = 500 then none else some response.toHttp), [])

end ChatEndpoint

end LlmopsGateway
