import LlmopsGateway.Model.ChatRequest
import LlmopsGateway.Model.PyJson

/-! # The payloads of the two providers

`_build_payload` of `OpenAIProvider` and `AnthropicProvider`. The system prompts of an Anthropic request
stand in a field of their own, and its `max_tokens` is never left out.
-/

namespace LlmopsGateway

/-- `{"role": m.role, "content": m.content}`. -/
def ChatMessage.payload (message : ChatMessage) : Json :=
  .obj [("role", .str (String.ofList message.role.text)), ("content", .str message.content)]

/-- `if request.stop: payload[key] = request.stop`. -/
def ChatRequest.stopField (request : ChatRequest) (key : String) : List (String × Json) :=
  match request.stop with
  | none | some [] => []
  | some items => [(key, .arr (items.map .str))]

theorem ChatRequest.field?_stopField {request : ChatRequest} {key other : String} (differ : other ≠ key) :
    Json.field? (request.stopField key) other = none := by
  rw [ChatRequest.stopField]
  split
  · rfl
  · rfl
  · simp [Json.field?, List.lookup_cons, beq_eq_false_iff_ne.mpr differ]

namespace OpenAIProvider

/-- `_build_payload`. -/
def buildPayload (request : ChatRequest) (stream : Bool) : Json :=
  .obj ([("model", .str request.model), ("messages", .arr (request.messages.map ChatMessage.payload)),
    ("temperature", .float request.temperature), ("top_p", .float request.topP), ("stream", .bool stream)] ++
    (request.maxTokens.map fun tokens => ("max_tokens", Json.int tokens)).toList ++ request.stopField "stop" ++
    if stream then [("stream_options", .obj [("include_usage", .bool true)])] else [])

end OpenAIProvider

namespace AnthropicProvider

def defaultMaxTokens : ℤ := 4096

def systemParts (request : ChatRequest) : List String :=
  (request.messages.filter fun message => message.role = .system).map ChatMessage.content

/-- The messages whose role is `user` or `assistant`. -/
def conversation (request : ChatRequest) : List ChatMessage :=
  request.messages.filter fun message => message.role = .user ∨ message.role = .assistant

/-- `request.max_tokens or DEFAULT_MAX_TOKENS`. -/
def maxTokens (request : ChatRequest) : ℤ :=
  match request.maxTokens with
  | none | some 0 => defaultMaxTokens
  | some tokens => tokens

/-- `"\n".join(parts)`. -/
def joinLines (parts : List String) : String := String.ofList (Words.join '\n' (parts.map String.toList))

def systemField (request : ChatRequest) : List (String × Json) :=
  match systemParts request with
  | [] => []
  | parts => [("system", .str (joinLines parts))]

/-- `_build_payload`. -/
def buildPayload (request : ChatRequest) (stream : Bool) : Json :=
  .obj ([("model", .str request.model), ("messages", .arr ((conversation request).map ChatMessage.payload)),
    ("max_tokens", .int (maxTokens request)), ("temperature", .float request.temperature),
    ("top_p", .float request.topP), ("stream", .bool stream)] ++
    systemField request ++ request.stopField "stop_sequences")

end AnthropicProvider

end LlmopsGateway
