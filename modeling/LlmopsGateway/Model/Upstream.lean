import LlmopsGateway.Model.RetryLoop
import Mathlib.Data.Int.Notation

/-! # The two adapters and the calls they make

One call of `BaseLLMProvider.complete` with its retries, over the non-streaming request of
`OpenAIProvider` and `AnthropicProvider`. What an HTTP request ends in is a parameter, as are the
breaker's answer at entry and pydantic's validation of an `int` field. An adapter checks the status
and whether the body is JSON; what it then takes the body apart with raises whatever Python raises.
-/

namespace LlmopsGateway

/-- A received HTTP response. `retryAfter` is the header as a float, `body` the outcome of
`response.json()`, its `ValueError` as text. -/
structure HttpReply where
  statusCode : ℕ
  text : String := ""
  retryAfter : Option ℚ := none
  body : Except String Json

/-- The outcome of one HTTP request: a timeout, a transport error, another exception of the client,
or a response. -/
inductive Posted
  | timeout (message : String)
  | transport (message : String)
  | escaped
  | reply (reply : HttpReply)

/-- What the adapters take from outside: a fresh UUID, the time, and pydantic's `int` validation,
which keeps an integer as it is. -/
structure AdapterContext where
  uuid : String
  now : ℕ
  intField : Json → Option ℤ
  intField_int : ∀ value, intField (.int value) = some value

namespace AdapterContext

variable (context : AdapterContext)

/-- `TokenUsage(input_tokens=…, output_tokens=…)`. -/
def tokenUsage (inputTokens outputTokens : Json) : Except ShapeError TokenUsage :=
  match context.intField inputTokens, context.intField outputTokens with
  | some input, some output => .ok ⟨input, output⟩
  | _, _ => .error .validation

/-- The `usage` block of a body, under the adapter's names for the two counts. -/
def usageOf (data : Json) (inputKey outputKey : String) : Except ShapeError TokenUsage := do
  let usageRaw ← data.getD "usage" .null
  let usageRaw := usageRaw.orElse (.obj [])
  let inputTokens ← usageRaw.getD inputKey (.int 0)
  let outputTokens ← usageRaw.getD outputKey (.int 0)
  context.tokenUsage inputTokens outputTokens

/-- The `ChatResponse(…)` of an adapter, with its placeholders. -/
def chatResponse (id model : Json) (provider : String) (content : Json) (usage : TokenUsage) :
    Except ShapeError ChatResponse :=
  match content.text?, id.text?, model.text? with
  | some content, some id, some model =>
    .ok
      { id, model, provider
        message := ⟨.assistant, content⟩
        usage
        costUsd := 0
        traceId := ""
        createdAt := context.now
        latencyMs := 0 }
  | _, _, _ => .error .validation

end AdapterContext

/-- The part of `_post`, `_raise_for_status` and `_complete_impl` the adapters share, with the name
that stands in their messages. -/
def completeImplOf (label : String) (decode : Json → Except ShapeError ChatResponse) :
    Posted → Except Raised ChatResponse
  | .timeout message => .error (.provider (.timeout (label ++ " request timed out: " ++ message)))
  | .transport message =>
    .error (.provider (.connection ("Failed to connect to " ++ label ++ ": " ++ message)))
  | .escaped => .error .library
  | .reply reply =>
    if reply.statusCode = 429 then .error (.provider (.rateLimited reply.retryAfter))
    else if 400 ≤ reply.statusCode then
      .error (.provider (.response (label ++ " returned HTTP " ++ toString reply.statusCode ++ ": " ++
        String.ofList (reply.text.toList.take 500)) reply.statusCode))
    else
      match reply.body with
      | .error message =>
        .error (.provider (.response (label ++ " returned invalid JSON: " ++ message) reply.statusCode))
      | .ok data => (decode data).mapError .shape

namespace OpenAIProvider

def name : String := "openai"

def supportsModel (model : String) : Bool :=
  ["gpt-", "o1", "o3", "o4", "chatgpt-"].any fun start => start.toList.isPrefixOf model.toList

/-- `_complete_impl` from the decoded body on. -/
def decode (context : AdapterContext) (request : ChatRequest) (data : Json) :
    Except ShapeError ChatResponse := do
  let choices ← data.getItem "choices"
  let choice ← choices.first
  let usage ← context.usageOf data "prompt_tokens" "completion_tokens"
  let id ← data.getD "id" (.str context.uuid)
  let model ← data.getD "model" (.str request.model)
  let message ← choice.getItem "message"
  let content ← message.getItem "content"
  context.chatResponse id model name (content.orElse (.str "")) usage

def completeImpl (context : AdapterContext) (request : ChatRequest) : Posted → Except Raised ChatResponse :=
  completeImplOf "OpenAI" (decode context request)

end OpenAIProvider

namespace AnthropicProvider

def name : String := "anthropic"

def supportsModel (model : String) : Bool :=
  "claude-".toList.isPrefixOf model.toList

/-- The text of a block of type `text`, and nothing of any other block. -/
def blockText (block : Json) : Except ShapeError (List Json) := do
  let type ← block.getD "type" .null
  if type.text? = some "text" then
    let text ← block.getD "text" (.str "")
    .ok [text]
  else .ok []

/-- The generator inside the `join`. -/
def blockTexts : List Json → Except ShapeError (List Json)
  | [] => .ok []
  | block :: rest => do
    let texts ← blockText block
    let later ← blockTexts rest
    .ok (texts ++ later)

/-- `_complete_impl` from the decoded body on. -/
def decode (context : AdapterContext) (request : ChatRequest) (data : Json) :
    Except ShapeError ChatResponse := do
  let content ← data.getD "content" (.arr [])
  let blocks ← content.iterate
  let texts ← blockTexts blocks
  let text ← Json.join texts
  let usage ← context.usageOf data "input_tokens" "output_tokens"
  let id ← data.getD "id" (.str "")
  let model ← data.getD "model" (.str request.model)
  context.chatResponse id model name (.str text) usage

def completeImpl (context : AdapterContext) (request : ChatRequest) : Posted → Except Raised ChatResponse :=
  completeImplOf "Anthropic" (decode context request)

end AnthropicProvider

inductive Adapter
  | openai
  | anthropic
deriving DecidableEq, Repr

namespace Adapter

def provider : Adapter → Provider
  | openai => ⟨OpenAIProvider.name, OpenAIProvider.supportsModel⟩
  | anthropic => ⟨AnthropicProvider.name, AnthropicProvider.supportsModel⟩

/-- The adapter registered under a name. -/
def ofName (name : String) : Adapter :=
  if name = AnthropicProvider.name then anthropic else openai

def completeImpl (context : AdapterContext) (request : ChatRequest) :
    Adapter → Posted → Except Raised ChatResponse
  | openai => OpenAIProvider.completeImpl context request
  | anthropic => AnthropicProvider.completeImpl context request

end Adapter

/-- The registry built from the settings: an adapter for each API key that is set. -/
def ProviderRegistry.ofKeys (openaiApiKey anthropicApiKey : Bool) : ProviderRegistry where
  providers := (if openaiApiKey then [Adapter.openai.provider] else []) ++
    (if anthropicApiKey then [Adapter.anthropic.provider] else [])
  nodup := by cases openaiApiKey <;> cases anthropicApiKey <;> decide

/-- The upstreams during one request: the breakers' answers and what each attempt's post ends in. -/
structure Upstream where
  maxRetries : ℤ := 3
  allowed : Adapter → Bool := fun _ => true
  post : Adapter → ChatRequest → ℕ → Posted

/-- `provider.complete(request)` for a registered adapter. -/
def Upstream.serve (upstream : Upstream) (context : AdapterContext) (provider : Provider)
    (request : ChatRequest) : Except Raised ChatResponse :=
  let adapter := Adapter.ofName provider.name
  (BaseLLMProvider.guarded provider.name upstream.maxRetries (upstream.allowed adapter) fun attempt =>
    BaseLLMProvider.completion adapter request attempt
      (adapter.completeImpl context request (upstream.post adapter request attempt))).outcome

end LlmopsGateway
