import LlmopsGateway.Machine.Scanner
import LlmopsGateway.Model.Upstream

/-! # Streaming from the two adapters

`_stream_impl` of `OpenAIProvider` and `AnthropicProvider` over the lines of a response, as `aiter_lines`
delivers them. The OpenAI events have no name; those of Anthropic are read under the name of the last
`event:` line. `json.loads` is a parameter here.
-/

namespace LlmopsGateway

open Machine PyText

/-- A `JSONDecodeError`, or another exception of `json.loads`. -/
inductive LoadError
  | decode
  | other
deriving DecidableEq, Repr

abbrev Loads := List Char → Except LoadError Json

section str

variable (isPrintable : Char → Bool)

namespace Json

mutual

/-- `repr` of a decoded value. -/
def repr : Json → List Char
  | null => "None".toList
  | bool true => "True".toList
  | bool false => "False".toList
  | int value => strOfInt (some value)
  | float value => value.text.toList
  | str text => reprStr isPrintable text.toList
  | arr items => '[' :: (List.intercalate [',', ' '] (reprItems items) ++ [']'])
  | obj fields => '{' :: (List.intercalate [',', ' '] (reprFields fields) ++ ['}'])

def reprItems : List Json → List (List Char)
  | [] => []
  | item :: rest => repr item :: reprItems rest

def reprFields : List (String × Json) → List (List Char)
  | [] => []
  | (key, value) :: rest => (reprStr isPrintable key.toList ++ ':' :: ' ' :: repr value) :: reprFields rest

end

/-- `str` of a decoded value. -/
def toText : Json → String
  | str text => text
  | value => String.ofList (value.repr isPrintable)

end Json

end str

/-- How the lines of a body end: with the body, or in an exception of the client. -/
inductive BodyEnd
  | complete
  | timeout (message : String)
  | transport (message : String)
  | escaped
deriving DecidableEq

/-- The response to a streaming request. -/
structure StreamReply where
  statusCode : ℕ
  text : String := ""
  retryAfter : Option ℚ := none
  lines : List (List Char)
  bodyEnd : BodyEnd := .complete

/-- What opening a stream comes to. -/
inductive Opened
  | timeout (message : String)
  | transport (message : String)
  | escaped
  | reply (reply : StreamReply)

/-- What a run of `_stream_impl` yields, how it ends, and the lines it has left unread. -/
structure Streamed where
  chunks : List Json := []
  outcome : Except Raised Unit
  unread : List (List Char) := []

/-- The `except` clauses around a stream. -/
def BodyEnd.outcome (label : String) : BodyEnd → Except Raised Unit
  | .complete => .ok ()
  | .timeout message => .error (.provider (.timeout (label ++ " stream timed out: " ++ message)))
  | .transport message => .error (.provider (.connection ("Failed to connect to " ++ label ++ ": " ++ message)))
  | .escaped => .error .library

namespace StreamReply

variable (label : String) (reply : StreamReply)

/-- `_raise_for_status`. -/
def raiseForStatus : Except Raised Unit :=
  if reply.statusCode = 429 then .error (.provider (.rateLimited reply.retryAfter))
  else if 400 ≤ reply.statusCode then
    .error (.provider (.response (label ++ " returned HTTP " ++ toString reply.statusCode ++ ": " ++
      String.ofList (reply.text.toList.take 500)) reply.statusCode))
  else .ok ()

/-- The check before the lines are read; any other status than 200 has its body read first. -/
def checked : Except Raised Unit :=
  if reply.statusCode = 200 then .ok ()
  else do
    reply.bodyEnd.outcome label
    reply.raiseForStatus label

end StreamReply

/-- What a stream comes to after the loop over its lines. -/
def StreamReply.streamed {ρ : Type} (label : String) (reply : StreamReply)
    (scanned : Scan (List Char) ρ Json Raised) : Streamed where
  chunks := scanned.outputs
  outcome :=
    match scanned.ending with
    | .exhausted _ => reply.bodyEnd.outcome label
    | .finished => .ok ()
    | .failed error => .error error
  unread := scanned.unread

/-- The part of `_stream_impl` that the adapters share. -/
def streamImplOf {ρ : Type} (label : String) (readLine : StreamReply → ρ → List Char → Verdict ρ Json Raised)
    (start : ρ) : Opened → Streamed
  | .timeout message => { outcome := (BodyEnd.timeout message).outcome label }
  | .transport message => { outcome := (BodyEnd.transport message).outcome label }
  | .escaped => { outcome := BodyEnd.escaped.outcome label }
  | .reply reply =>
    match reply.checked label with
    | .error error => { outcome := .error error, unread := reply.lines }
    | .ok () => reply.streamed label (scan (readLine reply) start reply.lines)

theorem streamImplOf_reply {ρ : Type} {label : String}
    {readLine : StreamReply → ρ → List Char → Verdict ρ Json Raised} {start : ρ} {reply : StreamReply}
    (accepted : reply.statusCode = 200) : streamImplOf label readLine start (.reply reply) =
      reply.streamed label (scan (readLine reply) start reply.lines) := by
  simp only [streamImplOf, StreamReply.checked, accepted, if_true]

/-- The stripped rest of a line that starts with the field. -/
def field? (name line : List Char) : Option (List Char) :=
  if name.isPrefixOf line then some (Words.strip isSpace (line.drop name.length)) else none

def dataOf? : List Char → Option (List Char) := field? "data:".toList

/-- `if text: yield text`. -/
def yielded (text : Json) : Option Json := if text.truthy then some text else none

namespace OpenAIProvider

variable (loads : Loads)

/-- `event["choices"][0]["delta"]["content"]` as far as it is there. -/
def deltaContent (event : Json) : Except ShapeError Json := do
  let choices ← event.getD "choices" .null
  let choices := choices.orElse (.arr [])
  if choices.truthy then
    let choice ← choices.first
    let delta ← choice.getD "delta" (.obj [])
    delta.getD "content" .null
  else .ok .null

def readEvent (event : Json) : Verdict Unit Json Raised :=
  match deltaContent event with
  | .error error => .fail (.shape error)
  | .ok content => .pass () (yielded content)

/-- One round of the loop over the lines. -/
def readLine (_ : Unit) (line : List Char) : Verdict Unit Json Raised :=
  match dataOf? line with
  | none => .pass () none
  | some data =>
    if data = "[DONE]".toList then .finish
    else
      match loads data with
      | .error .decode => .pass () none
      | .error .other => .fail .library
      | .ok event => readEvent event

def streamImpl : Opened → Streamed := streamImplOf "OpenAI" (fun _ => readLine loads) ()

end OpenAIProvider

namespace AnthropicProvider

variable (loads : Loads) (isPrintable : Char → Bool) (statusCode : ℕ)

/-- `event_data["delta"]["text"]` as far as it is there. -/
def deltaText (event : Json) : Except ShapeError Json := do
  let delta ← event.getD "delta" (.obj [])
  delta.getD "text" .null

/-- `error.get("message", event_data)`. -/
def errorMessage (event : Json) : Except ShapeError Json := do
  let error ← event.getD "error" (.obj [])
  error.getD "message" event

/-- What an `error` event raises. -/
def streamError (event : Json) : Raised :=
  match errorMessage event with
  | .error error => .shape error
  | .ok message =>
    .provider (.response ("Anthropic stream error: " ++ message.toText isPrintable) statusCode)

/-- The data of an event under its name; the name stays current. -/
def readEvent (current : Option (List Char)) (event : Json) : Verdict (Option (List Char)) Json Raised :=
  if current = some "content_block_delta".toList then
    match deltaText event with
    | .error error => .fail (.shape error)
    | .ok text => .pass current (yielded text)
  else if current = some "error".toList then .fail (streamError isPrintable statusCode event)
  else if current = some "message_stop".toList then .finish
  else .pass current none

/-- One round of the loop over the lines, with `current_event`. -/
def readLine (current : Option (List Char)) (line : List Char) : Verdict (Option (List Char)) Json Raised :=
  match field? "event:".toList line with
  | some name => .pass (some name) none
  | none =>
    match dataOf? line with
    | none => .pass current none
    | some data =>
      match loads data with
      | .error .decode => .pass current none
      | .error .other => .fail .library
      | .ok event => readEvent isPrintable statusCode current event

def streamImpl : Opened → Streamed :=
  streamImplOf "Anthropic" (fun reply => readLine loads isPrintable reply.statusCode) none

end AnthropicProvider

section calls

variable (loads : Loads) (isPrintable : Char → Bool)

def Adapter.streamImpl : Adapter → Opened → Streamed
  | openai => OpenAIProvider.streamImpl loads
  | anthropic => AnthropicProvider.streamImpl loads isPrintable

/-- The upstreams of streaming requests: the breakers' answers and what opening each attempt's stream comes
to. -/
structure StreamUpstream where
  maxRetries : ℤ := 3
  allowed : Adapter → Bool := fun _ => true
  opened : Adapter → ChatRequest → ℕ → Opened

namespace StreamUpstream

variable (upstream : StreamUpstream) (provider : Provider) (request : ChatRequest)

/-- One call of `_stream_impl`, every chunk passed on; a chunk that is no string stands for itself in the
source and as its `str` here. -/
def call (adapter : Adapter) (attempt : ℕ) : Logged Raised (UpstreamEvent Adapter) Unit :=
  let streamed := adapter.streamImpl loads isPrintable (upstream.opened adapter request attempt)
  ⟨.called adapter request attempt :: streamed.chunks.map fun chunk => .chunk (chunk.toText isPrintable),
    streamed.outcome⟩

/-- `provider.stream(request)` for a registered adapter. -/
def stream : Logged Raised (UpstreamEvent Adapter) Unit :=
  let adapter := Adapter.ofName provider.name
  BaseLLMProvider.guarded provider.name upstream.maxRetries (upstream.allowed adapter)
    (upstream.call loads isPrintable request adapter)

/-- What the routing loop reads of it. -/
def script : RoutingService.StreamScript where
  chunks := (upstream.stream loads isPrintable provider request).events.filterMap UpstreamEvent.text?
  raised :=
    match (upstream.stream loads isPrintable provider request).outcome with
    | .ok _ => none
    | .error error => some error

end StreamUpstream

end calls

end LlmopsGateway
