import LlmopsGateway.Machine.Generator
import LlmopsGateway.Model.Gateway
import LlmopsGateway.Model.JsonText
import LlmopsGateway.Model.Payloads
import LlmopsGateway.Model.PyText
import LlmopsGateway.Model.TracePersistence

/-! # The stream of the chat endpoint, and who reads it

`create_chat_completion` frames each item of a stream as an event of its own. Costs are exact in this
development; what float stands for one is a parameter. `_sse` runs on the handler, and the server pulls byte
strings from it. A client that goes away ends the pulling, and `GeneratorExit` leaves the handler at the item it
has handed over last.
-/

namespace LlmopsGateway

open JsonText Machine Payloads PyText

def Event.item? : Event → Option StreamItem
  | .yielded item => some item
  | _ => none

namespace ChatCompletions

section frames

variable (costFloat : ℚ → PyFloat)

/-- The event of an item. -/
def event : StreamItem → Json
  | .metadata response =>
    .obj [("usage", .obj [("input_tokens", .int response.usage.inputTokens),
        ("output_tokens", .int response.usage.outputTokens)]),
      ("cost_usd", .float (costFloat response.costUsd)),
      ("cache_status", .str response.cacheStatus.value),
      ("adapter_id", optional response.adapterId),
      ("model_alias", optional response.modelAlias),
      ("base_model", .str response.model)]
  | .chunk item => .obj [("choices", .arr [.obj [("delta", .obj [("content", .str item)])]])]

def frame (item : StreamItem) : List Char := "data: ".toList ++ dumps (event costFloat item) ++ ['\n', '\n']

def doneFrame : List Char := "data: [DONE]".toList ++ ['\n', '\n']

/-- `text.encode()`. -/
def encode (text : List Char) : ByteArray := (String.ofList text).toUTF8

/-- The byte strings that `_sse` yields. -/
def sse (items : List StreamItem) : List ByteArray :=
  items.map (fun item => encode (frame costFloat item)) ++ [encode doneFrame]

/-- The lines of a body for the HTTP client, if it is UTF-8. -/
def receivedLines (body : List ByteArray) : Option (List (List Char)) :=
  (String.fromUTF8? (body.foldr (· ++ ·) ByteArray.empty)).map fun text => splitLines text.toList

end frames

section pulls

variable (pricing : Pricing) (visit : Visit)

/-- All items of a stream. -/
def items : List StreamItem := (visit.handle pricing).events.filterMap Event.item?

/-- What the handler has done by then. -/
def handled (pulls : ℕ) : List Event := pulled Event.item? (visit.handle pricing).events pulls

/-- The byte strings of the pulls. Behind the last item comes the marker, unless the handler has raised. -/
def delivered (costFloat : ℚ → PyFloat) (pulls : ℕ) : List ByteArray :=
  let all :=
    match (visit.handle pricing).outcome with
    | .ok _ => sse costFloat (items pricing visit)
    | .error _ => (items pricing visit).map fun item => encode (frame costFloat item)
  all.take pulls

end pulls

end ChatCompletions

end LlmopsGateway
