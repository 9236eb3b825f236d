import LlmopsGateway.Model.JsonText
import LlmopsGateway.Soundness.OneHop
import LlmopsGateway.Soundness.StreamMarkers

/-! # What a partial stream leaves behind

`BaseLLMProvider.stream` takes the normal end of `_stream_impl` for a success, and the handler writes a
stream that ended so back to the cache. Both are right exactly as far as the adapters read the deliveries
for what they are.
-/

namespace LlmopsGateway

open Machine BaseLLMProvider

namespace BaseLLMProvider

variable {κ α : Type} {name : String} {call : ℕ → Logged Raised (UpstreamEvent κ) α}

/-- Nothing is recorded by a call itself. -/
def Unrecorded (events : List (UpstreamEvent κ)) : Prop := ∀ providerName, .recordSuccess providerName ∉ events

/-- What the loop leaves: a success, with no output from the calls before, or an exception and no success. -/
inductive LoopEnd (name : String) (call : ℕ → Logged Raised (UpstreamEvent κ) α)
    (played : Logged Raised (UpstreamEvent κ) α) : Prop
  | succeeded (front : List (UpstreamEvent κ)) (n : ℕ) (value : α) (quiet : ∀ event ∈ front, event.text? = none)
    (ended : (call n).outcome = .ok value)
    (events : played.events = front ++ ((call n).events ++ [.recordSuccess name]))
  | failed (error : Raised) (raised : played.outcome = .error error) (unrecorded : Unrecorded played.events)

theorem settled_of_ok {played : Logged Raised (UpstreamEvent κ) α} {value : α}
    (ended : played.outcome = .ok value) :
    (settled name played).events = played.events ++ [.recordSuccess name] := by
  rw [settled, ended]

/-- The record of a failed call is none of a success. -/
theorem unrecorded_settled {played : Logged Raised (UpstreamEvent κ) α} {error : Raised}
    (raised : played.outcome = .error error) (unrecorded : Unrecorded played.events) :
    Unrecorded (settled name played).events := by
  intro providerName recorded
  obtain ⟨events, outcome⟩ := played
  obtain rfl : outcome = .error error := raised
  match error with
  | .provider _ =>
    rcases List.mem_append.mp recorded with within | last
    · exact unrecorded providerName within
    · cases List.mem_singleton.mp last
  | .exhausted _ => exact unrecorded providerName recorded
  | .value _ => exact unrecorded providerName recorded
  | .shape _ => exact unrecorded providerName recorded
  | .overflow => exact unrecorded providerName recorded
  | .library => exact unrecorded providerName recorded

theorem quiet_settled {played : Logged Raised (UpstreamEvent κ) α} (retried : Retried played) :
    ∀ event ∈ (settled name played).events, event.text? = none := by
  obtain ⟨events, outcome⟩ := played
  obtain ⟨error, rfl, -, quiet⟩ := retried
  intro event member
  rcases List.mem_append.mp member with within | last
  · simpa using List.any_eq_false.mp quiet event within
  · obtain rfl := List.mem_singleton.mp last
    rfl

variable (unrecorded : ∀ n, Unrecorded (call n).events)
include unrecorded

theorem loopEnd_retryLoop (name : String) (retries : ℕ) :
    LoopEnd name call (retryLoop name call retries 0) := by
  have earlier {n : ℕ} (reaches : Reaches call retries 0 n) {event : UpstreamEvent κ}
      (member : event ∈ settledLog name call 0 n) : ∃ k, Retried (call k) ∧
        event ∈ (settled name (call k)).events := by
    obtain ⟨k, among, logged⟩ := List.mem_flatMap.mp member
    have below : k < n := by simpa using among
    have retried := (reaches.earlier k below).1
    rw [Nat.zero_add] at retried
    exact ⟨k, retried, logged⟩
  have silent {n : ℕ} (reaches : Reaches call retries 0 n) : Unrecorded (settledLog name call 0 n) := by
    intro providerName recorded
    obtain ⟨k, ⟨error, raised, -⟩, logged⟩ := earlier reaches recorded
    exact unrecorded_settled raised (unrecorded k) providerName logged
  have failing {n : ℕ} {error : Raised} (reaches : Reaches call retries 0 n)
      (raised : (call (0 + n)).outcome = .error error) : Unrecorded (settledLog name call 0 (n + 1)) := by
    intro providerName recorded
    rw [← settledLog_last] at recorded
    rcases List.mem_append.mp recorded with before | last
    · exact silent reaches providerName before
    · exact unrecorded_settled raised (unrecorded _) providerName last
  obtain ⟨n, reaches, last | ⟨below, retried, overflows⟩⟩ := exists_reaches call retries 0
  · rw [reaches.ended last]
    cases ended : (call (0 + n)).outcome with
    | ok value =>
      refine .succeeded (settledLog name call 0 n) (0 + n) value (fun event member => ?_) ended ?_
      · obtain ⟨k, retried, logged⟩ := earlier reaches member
        exact quiet_settled retried event logged
      · rw [← settledLog_last, settled_of_ok ended]
    | error error => exact .failed error rfl (failing reaches ended)
  · rw [reaches.overflowed below retried overflows]
    obtain ⟨error, raised, -⟩ := retried
    exact .failed .overflow rfl (failing reaches raised)

theorem loopEnd_guarded (name : String) (maxRetries : ℤ) (allowed : Bool) :
    LoopEnd name call (guarded name maxRetries allowed call) := by
  cases allowed with
  | true => exact loopEnd_retryLoop unrecorded name maxRetries.toNat
  | false => exact .failed _ rfl nofun

end BaseLLMProvider

namespace StreamUpstream

variable (loads : Loads) (isPrintable : Char → Bool) (upstream : StreamUpstream)

/-- What status 200 delivers is the whole completion. -/
def Complete (adapter : Adapter) (opened : Opened) : Prop :=
  ∀ reply, opened = .reply reply → reply.statusCode = 200 → adapter.Finished loads reply

/-- The chunks of one call. -/
def chunks (adapter : Adapter) (request : ChatRequest) (attempt : ℕ) : List String :=
  (adapter.streamImpl loads isPrintable (upstream.opened adapter request attempt)).chunks.map
    (Json.toText isPrintable)

/-- The log of a provider's stream ends in the success of a call that delivers the whole completion, and no
other call has yielded. -/
structure EndsWhole (provider : Provider) (request : ChatRequest) (attempt : ℕ) : Prop where
  log : ∃ front, (∀ event ∈ front, event.text? = none) ∧
    (upstream.stream loads isPrintable provider request).events =
      front ++ ((upstream.call loads isPrintable request (Adapter.ofName provider.name) attempt).events ++
        [.recordSuccess provider.name])
  whole : Complete loads (Adapter.ofName provider.name)
    (upstream.opened (Adapter.ofName provider.name) request attempt)

/-- A partial completion is an error at every layer. -/
structure NeverPartial : Prop where
  honest : ∀ adapter request attempt reply, upstream.opened adapter request attempt = .reply reply →
    reply.statusCode = 200 → adapter.Honest loads isPrintable reply
  recorded : ∀ provider request name,
    .recordSuccess name ∈ (upstream.stream loads isPrintable provider request).events →
      ∃ attempt, upstream.EndsWhole loads isPrintable provider request attempt
  backfilled : ∀ pricing (env : Environment) request sent response,
    env.stream = upstream.script loads isPrintable →
      .backfilled sent response ∈ (GatewayService.handleChatCompletionStream pricing env request).events →
        ∃ provider model attempt,
          upstream.EndsWhole loads isPrintable provider (RoutingService.attemptRequest sent model) attempt ∧
            response.message.content = String.join (upstream.chunks loads isPrintable
              (Adapter.ofName provider.name) (RoutingService.attemptRequest sent model) attempt)

section runs

variable {loads isPrintable upstream} {provider : Provider} {request : ChatRequest} {attempt : ℕ}

theorem unrecorded_call (adapter : Adapter) :
    Unrecorded (upstream.call loads isPrintable request adapter attempt).events := by
  intro name recorded
  rw [call] at recorded
  rcases List.mem_cons.mp recorded with first | among
  · cases first
  · obtain ⟨chunk, -, other⟩ := List.mem_map.mp among
    cases other

/-- The chunks that a stream passes on are those of the call that ends it. -/
theorem EndsWhole.script_chunks (ends : upstream.EndsWhole loads isPrintable provider request attempt) :
    (upstream.script loads isPrintable provider request).chunks =
      upstream.chunks loads isPrintable (Adapter.ofName provider.name) request attempt := by
  obtain ⟨front, quiet, events⟩ := ends.log
  rw [script, events, List.filterMap_append, List.filterMap_eq_nil_iff.mpr quiet, List.nil_append,
    List.filterMap_append, call, List.filterMap_cons]
  simp [UpstreamEvent.text?, chunks, List.filterMap_map, Function.comp_def]

variable (regular : ∀ adapter request attempt reply, upstream.opened adapter request attempt = .reply reply →
  reply.statusCode = 200 → adapter.Regular loads reply)
include regular

theorem complete_of_ok {adapter : Adapter}
    (ended : (upstream.call loads isPrintable request adapter attempt).outcome = .ok ()) :
    Complete loads adapter (upstream.opened adapter request attempt) := by
  intro reply opened accepted
  rw [call, opened] at ended
  exact Adapter.finished_of_ok accepted (regular adapter request attempt reply opened accepted) ended

/-- A stream that ends normally, or records a success, ends with a whole completion. -/
theorem endsWhole_or_failed (provider : Provider) (request : ChatRequest) :
    (∃ attempt, upstream.EndsWhole loads isPrintable provider request attempt) ∨
      ∃ error, (upstream.stream loads isPrintable provider request).outcome = .error error ∧
        Unrecorded (upstream.stream loads isPrintable provider request).events := by
  have unrecorded (n : ℕ) :
      Unrecorded (upstream.call loads isPrintable request (Adapter.ofName provider.name) n).events :=
    unrecorded_call _
  cases loopEnd_guarded unrecorded provider.name upstream.maxRetries
    (upstream.allowed (Adapter.ofName provider.name)) with
  | succeeded front n value quiet ended events =>
    exact .inl ⟨n, ⟨front, quiet, events⟩, complete_of_ok regular ended⟩
  | failed error raised unrecorded => exact .inr ⟨error, raised, unrecorded⟩

theorem recorded_of_regular {name : String}
    (recorded : .recordSuccess name ∈ (upstream.stream loads isPrintable provider request).events) :
    ∃ attempt, upstream.EndsWhole loads isPrintable provider request attempt := by
  rcases endsWhole_or_failed regular provider request with whole | ⟨-, -, unrecorded⟩
  · exact whole
  · exact absurd recorded (unrecorded name)

theorem endsWhole_of_script {chunks : List String}
    (scripted : upstream.script loads isPrintable provider request = ⟨chunks, none⟩) :
    ∃ attempt, upstream.EndsWhole loads isPrintable provider request attempt := by
  rcases endsWhole_or_failed regular provider request with whole | ⟨error, failed, -⟩
  · exact whole
  · have raised := congrArg RoutingService.StreamScript.raised scripted
    rw [script, failed] at raised
    cases raised

/-- What a stream writes back is the text of a whole completion. -/
theorem backfilled_of_regular {pricing : Pricing} {env : Environment} {sent : ChatRequest}
    {response : ChatResponse} (scripted : env.stream = upstream.script loads isPrintable)
    (written : .backfilled sent response ∈
      (GatewayService.handleChatCompletionStream pricing env request).events) :
    ∃ provider model attempt,
      upstream.EndsWhole loads isPrintable provider (RoutingService.attemptRequest sent model) attempt ∧
        response.message.content = String.join (upstream.chunks loads isPrintable
          (Adapter.ofName provider.name) (RoutingService.attemptRequest sent model) attempt) := by
  obtain ⟨-, provider, model, chunks, ⟨-, -, -, -, served⟩, content⟩ := backfilled_of_stream written
  rw [scripted] at served
  obtain ⟨attempt, whole⟩ := endsWhole_of_script regular served
  refine ⟨provider, model, attempt, whole, ?_⟩
  rw [content, ← whole.script_chunks, served]

end runs

/-- Partial completions are errors at every layer exactly if every delivery is regular. -/
theorem neverPartial_iff : upstream.NeverPartial loads isPrintable ↔
    ∀ adapter request attempt reply, upstream.opened adapter request attempt = .reply reply →
      reply.statusCode = 200 → adapter.Regular loads reply := by
  constructor
  · intro never adapter request attempt reply opened accepted
    exact Adapter.regular_of_honest accepted (never.honest adapter request attempt reply opened accepted)
  · intro regular
    refine ⟨fun adapter request attempt reply opened accepted => ?_, fun provider request name => ?_,
      fun pricing env request sent response => ?_⟩
    · exact Adapter.honest_of_regular accepted (regular adapter request attempt reply opened accepted)
    · exact recorded_of_regular regular
    · exact backfilled_of_regular regular

/-- OpenAI's lines break off behind the first delta. -/
def cutLines : List (List Char) :=
  ["data: \x7b\"choices\":[\x7b\"delta\":\x7b\"content\":\"Hel\"\x7d\x7d]\x7d".toList]

def cutUpstream : StreamUpstream where
  opened := fun _ _ _ => .reply { statusCode := 200, lines := cutLines }

/-- What is cut off is recorded as a success. -/
theorem cut_not_neverPartial :
    (cutUpstream.stream (JsonText.loads fun _ => JsonText.nan) (fun _ => true) Adapter.openai.provider
        RoutingService.gptRequest).events =
      [.called .openai RoutingService.gptRequest 0, .chunk "Hel", .recordSuccess "openai"] ∧
    ¬ cutUpstream.NeverPartial (JsonText.loads fun _ => JsonText.nan) (fun _ => true) := by
  have logged :
      (cutUpstream.stream (JsonText.loads fun _ => JsonText.nan) (fun _ => true) Adapter.openai.provider
        RoutingService.gptRequest).events =
      [.called .openai RoutingService.gptRequest 0, .chunk "Hel", .recordSuccess "openai"] := rfl
  refine ⟨logged, fun never => ?_⟩
  obtain ⟨attempt, whole⟩ :=
    never.recorded Adapter.openai.provider RoutingService.gptRequest "openai" (by simp [logged])
  have finished : Adapter.openai.Finished (JsonText.loads fun _ => JsonText.nan)
      { statusCode := 200, lines := cutLines } := whole.whole _ rfl rfl
  obtain ⟨before, place, after, parts, marker, -⟩ := finished
  have member : place ∈ Adapter.openai.places cutLines := by
    rw [parts]
    simp
  obtain rfl := List.mem_singleton.mp member
  cases marker

end StreamUpstream

end LlmopsGateway
