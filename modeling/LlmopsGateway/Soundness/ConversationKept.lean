import LlmopsGateway.Model.ProviderPayload

/-! # What the providers are sent of a conversation

Both payloads are read back: the contents under `messages`, and the system prompts. The Anthropic adapter
splits a conversation by role and knows only three of the four roles.
-/

namespace LlmopsGateway

/-- The contents of the messages of a payload. -/
def sentContents (payload : Json) : Except ShapeError (List Json) := do
  let messages ← payload.getItem "messages"
  let items ← messages.iterate
  items.mapM (·.getItem "content")

/-- The `messages` of a payload carry the contents of these messages, all of them and in their order. -/
def Carries (payload : Json) (messages : List ChatMessage) : Prop :=
  sentContents payload = .ok (messages.map fun message => .str message.content)

/-- A payload with the system prompts of a conversation in a field of their own. -/
structure CarriesSplit (payload : Json) (messages : List ChatMessage) : Prop where
  conversation : Carries payload (messages.filter fun message => message.role ≠ .system)
  system : payload.getD "system" (.str "") = .ok (.str (AnthropicProvider.joinLines
    ((messages.filter fun message => message.role = .system).map ChatMessage.content)))

theorem mapM_content_payload (messages : List ChatMessage) :
    (messages.map ChatMessage.payload).mapM (·.getItem "content") =
      (.ok (messages.map fun message => .str message.content) : Except ShapeError (List Json)) := by
  induction messages with
  | nil => rfl
  | cons message rest ih =>
    have here : message.payload.getItem "content" = .ok (.str message.content) := rfl
    rw [List.map_cons, List.mapM_cons, here, ih]
    rfl

/-- A payload under whose last `messages` key these messages stand. -/
theorem sentContents_of_messages {payload : Json} {messages : List ChatMessage}
    (found : payload.getItem "messages" = .ok (.arr (messages.map ChatMessage.payload))) :
    sentContents payload = .ok (messages.map fun message => .str message.content) := by
  simp only [sentContents, found]
  exact mapM_content_payload messages

namespace OpenAIProvider

theorem buildPayload_messages (request : ChatRequest) (stream : Bool) :
    (buildPayload request stream).getItem "messages" = .ok
    (.arr (request.messages.map ChatMessage.payload)) := by
  have tokens : Json.field? (request.maxTokens.map fun tokens =>
    ("max_tokens", Json.int tokens)).toList "messages" = none := by
    cases request.maxTokens <;> rfl
  have options : Json.field? (if stream then [("stream_options", .obj [("include_usage", .bool true)])] else [])
      "messages" = none := by
    cases stream <;> rfl
  refine Json.getItem_obj ?_
  rw [Json.field?_append, Json.field?_append, Json.field?_append, options, tokens,
    ChatRequest.field?_stopField (by decide)]
  rfl

end OpenAIProvider

namespace AnthropicProvider

theorem buildPayload_messages (request : ChatRequest) (stream : Bool) :
    (buildPayload request stream).getItem "messages" = .ok
    (.arr ((conversation request).map ChatMessage.payload)) := by
  have system : Json.field? (systemField request) "messages" = none := by
    rw [systemField]
    split <;> rfl
  refine Json.getItem_obj ?_
  rw [Json.field?_append, Json.field?_append, system, ChatRequest.field?_stopField (by decide)]
  rfl

theorem buildPayload_system (request : ChatRequest) (stream : Bool) :
    (buildPayload request stream).getD "system" (.str "") = .ok (.str (joinLines (systemParts request))) := by
  rw [buildPayload, Json.getD_obj, Json.field?_append, Json.field?_append,
    ChatRequest.field?_stopField (by decide), systemField]
  split
  · rename_i none
    rw [none]
    rfl
  · rfl

/-- Of the messages that are no system prompts, all but those of a tool are sent. -/
theorem conversation_eq (request : ChatRequest) :
    conversation request =
      (request.messages.filter fun message => message.role ≠ .system).filter fun message =>
        message.role ≠ .tool := by
  rw [conversation, List.filter_filter]
  congr 1
  funext message
  cases role : message.role <;> rfl

/-- An Anthropic payload carries a conversation if and only if no message has the role of a tool, while an
OpenAI payload carries every conversation. -/
theorem buildPayload_carries_iff (request : ChatRequest) (stream : Bool) :
    Carries (OpenAIProvider.buildPayload request stream) request.messages ∧
      (CarriesSplit (buildPayload request stream) request.messages ↔
        ∀ message ∈ request.messages, message.role ≠ .tool) := by
  refine ⟨sentContents_of_messages (OpenAIProvider.buildPayload_messages request stream), ?_, ?_⟩
  · intro carries message member tool
    have contents :=
      (sentContents_of_messages (buildPayload_messages request stream)).symm.trans carries.conversation
    have lengths := congrArg List.length (Except.ok.inj contents)
    rw [List.length_map, List.length_map, conversation_eq] at lengths
    have spoken : message ∈ request.messages.filter fun message => message.role ≠ .system :=
      List.mem_filter.mpr ⟨member, by simp [tool]⟩
    have kept := List.length_filter_eq_length_iff.mp lengths message spoken
    simp [tool] at kept
  · intro noTool
    refine ⟨?_, buildPayload_system request stream⟩
    have all : conversation request = request.messages.filter fun message => message.role ≠ .system := by
      rw [conversation_eq, List.filter_eq_self]
      intro message spoken
      exact decide_eq_true (noTool message (List.mem_of_mem_filter spoken))
    rw [Carries, ← all]
    exact sentContents_of_messages (buildPayload_messages request stream)

/-- A conversation with the result of a tool call. -/
def toolRequest : ChatRequest where
  model := "gpt-4o"
  messages := [⟨.user, "weather in Oslo?"⟩, ⟨.tool, "-4 C, snow"⟩]

theorem buildPayload_drops_tool : ¬ CarriesSplit (buildPayload toolRequest false) toolRequest.messages := by
  intro carries
  have contents :=
    (sentContents_of_messages (buildPayload_messages toolRequest false)).symm.trans carries.conversation
  have lengths := congrArg List.length (Except.ok.inj contents)
  exact absurd lengths (by decide)

end AnthropicProvider

end LlmopsGateway
