import LlmopsGateway.Model.ChatEndpoint
import LlmopsGateway.Soundness.AccessControl
import LlmopsGateway.Soundness.Attribution
import LlmopsGateway.Soundness.AuditTrail

/-! # What a response says

Every response carries the trace id of its request, except that to an exception no handler has taken; errors
name it in their bodies in any case. A completion that is sent is the one that is recorded, with its status
and cost in the headers. A completion that cannot be sent, since a header would not be Latin-1, is recorded
nevertheless. -/

namespace LlmopsGateway

open Machine Middleware ChatEndpoint

namespace Headers

variable {name value other : String} {headers after : Headers}

theorem set_of_latin1 (name : String) (latin1 : isLatin1 value = true) (headers : Headers) :
    ∃ after, headers.set name value = some after := ⟨_, if_pos latin1⟩

theorem get?_set (written : headers.set name value = some after) : after.get? name = some value := by
  rw [set] at written
  split_ifs at written
  obtain rfl := Option.some.inj written
  have absent : (headers.filter fun header => lower header.1 ≠ lower name).find?
      (fun header => lower header.1 = lower name) = none := by
    simp [List.find?_eq_none]
  rw [get?, List.find?_append, absent, Option.none_or]
  simp

theorem get?_set_of_ne (apart : lower other ≠ lower name) (written : headers.set name value = some after) :
    after.get? other = headers.get? other := by
  rw [set] at written
  split_ifs at written
  obtain rfl := Option.some.inj written
  have kept : (headers.filter fun header => lower header.1 ≠ lower name).find?
      (fun header => lower header.1 = lower other) = headers.find? fun header =>
        lower header.1 = lower other := by
    rw [List.find?_filter]
    refine congrArg (fun test => headers.find? test) (funext fun header => ?_)
    by_cases same : lower header.1 = lower other
    · simp [same, apart]
    · simp [same]
  have last : [(name, value)].find? (fun header => lower header.1 = lower other) = none := by
    simp [Ne.symm apart]
  rw [get?, get?, List.find?_append, kept, last, Option.or_none]

theorem get?_setWhen_of_ne {condition : Bool} (apart : lower other ≠ lower name)
    (written : headers.setWhen condition name value = some after) : after.get? other = headers.get? other := by
  rw [setWhen] at written
  split_ifs at written
  · exact get?_set_of_ne apart written
  · rw [Option.some.inj written]

theorem setWhen_of_latin1 {condition : Bool} (name : String) (latin1 : condition = true → isLatin1 value = true)
    (headers : Headers) : ∃ after, headers.setWhen condition name value = some after := by
  rw [setWhen]
  split_ifs with holds
  · exact set_of_latin1 name (latin1 holds) headers
  · exact ⟨headers, rfl⟩

theorem latin1_of_setWhen {condition : Bool} (written : headers.setWhen condition name value = some after)
    (holds : condition = true) : isLatin1 value = true := by
  rw [setWhen, if_pos holds, set] at written
  split_ifs at written with latin1
  exact latin1

end Headers

namespace Middleware

/-- The endpoint has run with this trace id, or an error names it. -/
def Answer.Traced (traceId : String) : Answer → Prop
  | .ran state => state.traceId = some traceId
  | .error response => response.traceId = some traceId ∧ response.statusCode ∈ [401, 403, 429, 500]

def Traces (traceId : String) (app : App) : Prop :=
  ∀ state stores, state.traceId = some traceId → (app state stores).1.Traced traceId

variable {deployment : Deployment} {request : Request} {traceId : String} {callNext : App}

theorem traces_endpoint : Traces traceId endpoint := fun _ _ traced => traced

theorem traces_withUrlPath {next : String → App} (traces : ∀ path, Traces traceId (next path)) :
    Traces traceId (withUrlPath deployment request next) := by
  intro state stores traced
  unfold withUrlPath
  split
  · exact ⟨traced, by simp [internalErrorResponse]⟩
  · exact traces _ state stores traced

theorem Traces.rateLimit (traces : Traces traceId callNext) :
    Traces traceId (rateLimit deployment request callNext) := by
  refine traces_withUrlPath fun path state stores traced => ?_
  split
  · exact traces state stores traced
  · dsimp only
    split
    · exact traces state _ traced
    · exact ⟨traced, by simp [rateLimitErrorResponse]⟩

theorem traces_authErrorResponse {state : RequestState} (traced : state.traceId = some traceId)
    (error : AuthError) :
    (authErrorResponse deployment state error).traceId = some traceId ∧
      (authErrorResponse deployment state error).statusCode ∈ [401, 403, 429, 500] := by
  cases error <;> exact ⟨traced, by simp [authErrorResponse, AuthError.status]⟩

theorem Traces.auth (traces : Traces traceId callNext) : Traces traceId (auth deployment request callNext) := by
  refine traces_withUrlPath fun path state stores traced => ?_
  split
  · exact traces state stores traced
  · split
    · exact traces _ stores traced
    · split
      · exact traces_authErrorResponse traced _
      · split
        · exact traces_authErrorResponse traced _
        · split
          · exact traces_authErrorResponse traced _
          · exact traces _ _ traced
        · exact ⟨traced, by simp [internalErrorResponse]⟩

theorem traces_handle (deployment : Deployment) (request : Request) (stores : Stores) :
    (handle deployment request stores).1.Traced (requestTraceId request) := by
  have inner : Traces (requestTraceId request)
      (Middleware.auth deployment request (Middleware.rateLimit deployment request endpoint)) :=
    traces_endpoint.rateLimit.auth
  exact traces_withUrlPath (fun _ => inner) _ stores rfl

end Middleware

namespace GatewayService

variable {pricing : Pricing} {env : Environment} {request : ChatRequest} {result : ChatResponse}

/-- What is returned is what is recorded. -/
theorem recorded_of_returned (returned : (handleChatCompletion pricing env request).outcome = .ok result) :
    ∃ entry, auditEntries (handleChatCompletion pricing env request).events = [entry] ∧
      entry.response = result ∧
      result.traceId = env.traceId := by
  have exits := completionExit pricing env request
  generalize handleChatCompletion pricing env request = handled at exits returned ⊢
  cases exits with
  | hit looked written =>
    obtain rfl := Except.ok.inj returned
    refine ⟨_, auditEntries_concat (fun event member => ?_) _, rfl, rfl⟩
    rw [written event member]
    rfl
  | joined looked lost answered =>
    obtain rfl := Except.ok.inj returned
    exact ⟨_, rfl, rfl, rfl⟩
  | @served status won response tried looked locked completed =>
    obtain rfl := Except.ok.inj returned
    have untouched : auditEntries tried = [] := auditEntries_eq_nil fun event member => by
      rw [locked event member]
      rfl
    refine ⟨⟨.chatCompletions, env.tenantId, env.apiKeyId, applyAdapterRoute env request,
      stamp env (applyAdapterRoute env request) (costed pricing response) status⟩, ?_, rfl, rfl⟩
    rw [auditEntries_append, untouched, List.nil_append, servedLog]
    cases won <;> cases status <;> rfl
  | failed locked => cases returned

theorem unrecorded_of_raised {error : Raised}
    (raised : (handleChatCompletion pricing env request).outcome = .error error) :
    auditEntries (handleChatCompletion pricing env request).events = [] := by
  have audited := handleChatCompletion_audited pricing env request
  rwa [Audited, raised] at audited

end GatewayService

namespace ChatEndpoint

variable {costText : CostText} {pricing : Pricing} {base : Environment} {payload : ChatRequest}
  {deployment : Deployment} {request : Request} {stores : Stores} {result : ChatResponse}

/-- The names a completion puts into headers are Latin-1. -/
structure Sendable (result : ChatResponse) : Prop where
  adapterId : GatewayService.truthy result.adapterId = true → isLatin1 (result.adapterId.getD "") = true
  modelAlias : GatewayService.truthy result.modelAlias = true → isLatin1 (result.modelAlias.getD "") = true
  baseModel : GatewayService.truthy result.modelAlias = true → isLatin1 result.model = true
  adapterStage : GatewayService.truthy result.adapterStage = true →
    isLatin1 (result.adapterStage.getD "") = true

theorem isLatin1_value (status : CacheStatus) : isLatin1 status.value = true := by
  cases status <;> decide

theorem completionHeaders_of_sendable (costText : CostText) (sendable : Sendable result)
    (traced : isLatin1 result.traceId = true) :
    ∃ headers, completionHeaders costText result = some headers := by
  obtain ⟨first, trace⟩ := Headers.set_of_latin1 "X-Trace-Id" traced []
  obtain ⟨second, cacheStatus⟩ :=
    Headers.set_of_latin1 "X-Cache-Status" (isLatin1_value result.cacheStatus) first
  obtain ⟨third, cost⟩ := Headers.set_of_latin1 "X-Request-Cost" (costText.isLatin1 result.costUsd) second
  obtain ⟨fourth, adapterId⟩ := Headers.setWhen_of_latin1 "X-Adapter-Id" sendable.adapterId third
  obtain ⟨fifth, modelAlias⟩ := Headers.setWhen_of_latin1 "X-Model-Alias" sendable.modelAlias fourth
  obtain ⟨sixth, baseModel⟩ := Headers.setWhen_of_latin1 "X-Base-Model" sendable.baseModel fifth
  obtain ⟨headers, adapterStage⟩ := Headers.setWhen_of_latin1 "X-Adapter-Stage" sendable.adapterStage sixth
  refine ⟨headers, ?_⟩
  simp only [completionHeaders, Headers.setIf, trace, cacheStatus, cost, adapterId, modelAlias, baseModel,
    adapterStage, bind, Option.bind_some]

/-- The headers of a completion that can be sent. -/
theorem of_completionHeaders {headers : Headers} (written : completionHeaders costText result = some headers) :
    Sendable result ∧ headers.get? "X-Cache-Status" = some result.cacheStatus.value ∧
      headers.get? "X-Request-Cost" = some (costText.text result.costUsd) := by
  obtain ⟨first, -, written⟩ := Option.bind_eq_some_iff.mp written
  obtain ⟨second, cacheStatus, written⟩ := Option.bind_eq_some_iff.mp written
  obtain ⟨third, cost, written⟩ := Option.bind_eq_some_iff.mp written
  obtain ⟨fourth, adapterId, written⟩ := Option.bind_eq_some_iff.mp written
  obtain ⟨fifth, modelAlias, written⟩ := Option.bind_eq_some_iff.mp written
  obtain ⟨sixth, baseModel, adapterStage⟩ := Option.bind_eq_some_iff.mp written
  refine ⟨⟨Headers.latin1_of_setWhen adapterId, Headers.latin1_of_setWhen modelAlias,
    Headers.latin1_of_setWhen baseModel, Headers.latin1_of_setWhen adapterStage⟩, ?_, ?_⟩
  · rw [Headers.get?_setWhen_of_ne (by decide) adapterStage, Headers.get?_setWhen_of_ne (by decide) baseModel,
      Headers.get?_setWhen_of_ne (by decide) modelAlias, Headers.get?_setWhen_of_ne (by decide) adapterId,
      Headers.get?_set_of_ne (by decide) cost, Headers.get?_set cacheStatus]
  · rw [Headers.get?_setWhen_of_ne (by decide) adapterStage, Headers.get?_setWhen_of_ne (by decide) baseModel,
      Headers.get?_setWhen_of_ne (by decide) modelAlias, Headers.get?_setWhen_of_ne (by decide) adapterId,
      Headers.get?_set cost]

/-- What a client can read off a response, where the handler has recorded these entries. -/
structure Contract (costText : CostText) (request : Request) (response : HttpResponse)
    (entries : List AuditEntry) :
    Prop where
  traced : response.statusCode ≠ 500 → response.headers.get? "X-Trace-Id" = some (requestTraceId request)
  untraced : response.statusCode = 500 → response.headers.get? "X-Trace-Id" = none
  errors : ∀ error, response.body = .error error →
    error.traceId = some (requestTraceId request) ∧ error.statusCode = response.statusCode ∧
      response.statusCode ∈ [401, 403, 429, 500, 502, 503]
  completed : ∀ result, response.body = .completion result → response.statusCode = 200 ∧ Sendable result ∧
    result.traceId = requestTraceId request ∧
    response.headers.get? "X-Cache-Status" = some result.cacheStatus.value ∧
    response.headers.get? "X-Request-Cost" = some (costText.text result.costUsd) ∧
    ∃ entry, entries = [entry] ∧ entry.response = result
  recorded : ∀ entry ∈ entries, response.body = .completion entry.response ∨
    response.statusCode = 500 ∧ ¬ Sendable entry.response

section finish

variable {response : HttpResponse} {error : ErrorResponse}

theorem finish_of_latin1 (latin1 : isLatin1 (requestTraceId request) = true) (response : HttpResponse) :
    ∃ headers, Headers.set "X-Trace-Id" (requestTraceId request) response.headers = some headers ∧
      finish request (some response) = { response with headers } := by
  obtain ⟨headers, written⟩ := Headers.set_of_latin1 "X-Trace-Id" latin1 response.headers
  refine ⟨headers, written, ?_⟩
  simp only [finish, bind, Option.bind_some, written, pure, Option.getD_some]

/-- An exception without a handler. -/
theorem contract_unhandled {entries : List AuditEntry} (unsent : ∀ entry ∈ entries, ¬ Sendable entry.response) :
    Contract costText request (finish request none) entries where
  traced ordinary := absurd rfl ordinary
  untraced _ := rfl
  errors error body := by
    obtain rfl := ResponseBody.error.inj body
    refine ⟨rfl, rfl, ?_⟩
    simp [finish, internalErrorResponse, ErrorResponse.toHttp]
  completed result body := by cases body
  recorded entry member := .inr ⟨rfl, unsent entry member⟩

/-- An error that passes the request context. -/
theorem contract_error (latin1 : isLatin1 (requestTraceId request) = true)
    (traced : error.traceId = some (requestTraceId request))
    (status : error.statusCode ∈ [401, 403, 429, 502, 503]) :
    Contract costText request (finish request (some error.toHttp)) [] := by
  obtain ⟨headers, written, finished⟩ := finish_of_latin1 latin1 error.toHttp
  rw [finished]
  have known : error.statusCode ≠ 500 ∧ error.statusCode ∈ [401, 403, 429, 500, 502, 503] := by
    simp only [List.mem_cons, List.not_mem_nil, or_false] at status ⊢
    omega
  exact
    { traced := fun _ => Headers.get?_set written
      untraced := fun same => absurd same known.1
      errors := by
        intro other body
        obtain rfl := ResponseBody.error.inj body
        exact ⟨traced, rfl, known.2⟩
      completed := by
        intro result body
        cases body
      recorded := fun entry member => absurd member List.not_mem_nil }

theorem contract_completion (latin1 : isLatin1 (requestTraceId request) = true) {headers : Headers}
    (written : completionHeaders costText result = some headers)
    (traced : result.traceId = requestTraceId request)
    {entry : AuditEntry} (same : entry.response = result) :
    Contract costText request (finish request (some ⟨200, headers, .completion result⟩)) [entry] := by
  obtain ⟨sendable, cacheStatus, cost⟩ := of_completionHeaders written
  obtain ⟨after, set, finished⟩ := finish_of_latin1 latin1 ⟨200, headers, .completion result⟩
  rw [finished]
  exact
    { traced := fun _ => Headers.get?_set set
      untraced := fun wrong => absurd (show 200 = 500 from wrong) (by decide)
      errors := by
        intro error body
        cases body
      completed := by
        intro other body
        obtain rfl := ResponseBody.completion.inj body
        refine ⟨rfl, sendable, traced, ?_, ?_, entry, rfl, same⟩
        · exact (Headers.get?_set_of_ne (by decide) set).trans cacheStatus
        · exact (Headers.get?_set_of_ne (by decide) set).trans cost
      recorded := by
        intro other member
        obtain rfl := List.mem_singleton.mp member
        exact .inl (by rw [same]) }

end finish

/-- For every request that is not streamed, with all it meets on its way. -/
theorem serve_contract (latin1 : isLatin1 (requestTraceId request) = true) (plain : payload.stream = false) :
    Contract costText request (serve costText pricing base payload deployment request stores).1
      (auditEntries (serve costText pricing base payload deployment request stores).2) := by
  have traced := traces_handle deployment request stores
  rw [serve]
  cases answered : (Middleware.handle deployment request stores).1 with
  | error response =>
    rw [answered] at traced
    obtain ⟨traceId, status⟩ := traced
    dsimp only
    split
    · exact contract_unhandled fun _ member => absurd member List.not_mem_nil
    · rename_i ordinary
      refine contract_error latin1 traceId ?_
      simp only [List.mem_cons, List.not_mem_nil, or_false] at status ⊢
      omega
  | ran state =>
    rw [answered] at traced
    have same : (environment base state).traceId = requestTraceId request := by
      rw [environment, traced]
      rfl
    dsimp only
    rw [createChatCompletion, plain, if_neg Bool.false_ne_true]
    cases ended : (GatewayService.handleChatCompletion pricing (environment base state) payload).outcome with
    | error error =>
      have entries := GatewayService.unrecorded_of_raised ended
      simp only [ended, entries]
      cases error with
      | provider error => exact contract_error latin1 traced (by simp)
      | exhausted attempts => exact contract_error latin1 traced (by simp)
      | _ => exact contract_unhandled fun _ member => absurd member List.not_mem_nil
    | ok result =>
      obtain ⟨entry, entries, recorded, named⟩ := GatewayService.recorded_of_returned ended
      simp only [ended, entries]
      cases written : completionHeaders costText result with
      | some headers => exact contract_completion latin1 written (named.trans same) recorded
      | none =>
        refine contract_unhandled fun other member sendable => ?_
        obtain rfl := List.mem_singleton.mp member
        rw [recorded] at sendable
        have latin1' : isLatin1 result.traceId = true := by rwa [named, same]
        obtain ⟨headers, sent⟩ := completionHeaders_of_sendable costText sendable latin1'
        rw [written] at sent
        cases sent

section sample

/-- Without keys and limits. -/
noncomputable def openDeployment : Deployment :=
  { sampleDeployment with
    settings := { authRequireApiKey := false }
    rateLimit := { defaultLimitPerMinute := 60, enabled := false } }

/-- A client may name an adapter itself, in any script. -/
def adapterRequest : ChatRequest := { RoutingService.gptRequest with adapterId := some "lora-日本" }

/-- The exact cache answers. -/
def warmEnv : Environment :=
  { GatewayService.outageEnv false with
    exactGet := fun request =>
      ((GatewayService.outageEnv false).complete Adapter.openai.provider request).toOption }

def sampleText : CostText where
  text _ := "0.000000"
  isLatin1 _ := by decide

noncomputable def sampleServed : HttpResponse × List Event :=
  serve sampleText (fun _ => none) warmEnv adapterRequest openDeployment
    (sampleRequest "POST" "/v1/chat/completions") sampleStores

theorem ran_openDeployment :
    ∃ state, (Middleware.handle openDeployment (sampleRequest "POST" "/v1/chat/completions") sampleStores).1 =
      .ran state := by
  have located : openDeployment.urlPath (sampleRequest "POST" "/v1/chat/completions") =
    some "/v1/chat/completions" := by decide
  have chat : isExemptPath "/v1/chat/completions" = false := by decide
  simp only [handle, createApp, requestContext, Middleware.auth, Middleware.rateLimit, withUrlPath, located,
    List.foldl, chat]
  exact ⟨_, rfl⟩

theorem sampleServed_recorded :
    (auditEntries sampleServed.2).map (·.response.adapterId) = [some "lora-日本"] := by
  obtain ⟨state, ran⟩ := ran_openDeployment
  rw [sampleServed, serve, ran]
  rfl

/-- It is recorded, but the client gets an error. -/
theorem serve_contract_adapter :
    Contract sampleText (sampleRequest "POST" "/v1/chat/completions") sampleServed.1
      (auditEntries sampleServed.2) ∧
      sampleServed.1.statusCode = 500 ∧ (auditEntries sampleServed.2).length = 1 := by
  have contract : Contract sampleText (sampleRequest "POST" "/v1/chat/completions") sampleServed.1
      (auditEntries sampleServed.2) := serve_contract (by decide) rfl
  obtain ⟨entry, entries, adapter⟩ := List.map_eq_singleton_iff.mp sampleServed_recorded
  have unsendable : ¬ Sendable entry.response := by
    intro sendable
    have latin1 := sendable.adapterId
    rw [adapter] at latin1
    exact absurd (latin1 (by decide)) (by decide)
  refine ⟨contract, ?_, by rw [entries, List.length_singleton]⟩
  rcases contract.recorded entry (by rw [entries]; exact List.mem_singleton_self entry) with sent | ⟨failed, -⟩
  · exact absurd (contract.completed _ sent).2.1 unsendable
  · exact failed

end sample

end ChatEndpoint

end LlmopsGateway
