import LlmopsGateway.Soundness.AttemptResolution
import LlmopsGateway.Soundness.RetryBudget

/-! # A stream has one source

The first upstream call that yields a chunk or succeeds decides a stream: its chunks are all that is
delivered, its end is the end of the stream, and nothing upstream starts after it. Until then every
call fails without output. The loops keep to this unless a backoff delay overflows on the way.
-/

namespace LlmopsGateway

open Machine BaseLLMProvider UpstreamOutcome

/-- Of a call that fails without output, only the call and the record of its failure are logged. -/
def UpstreamEvent.Quiet : UpstreamEvent StreamLeg → Prop
  | .called leg _ n => silentError (leg.yields n) ≠ none
  | .recordFailure _ => True
  | _ => False

namespace UpstreamEvent

def selection? {κ : Type} : UpstreamEvent κ → Option (Provider × ChatRequest)
  | selected provider request => some (provider, request)
  | _ => none

variable {event : UpstreamEvent StreamLeg} {events : List (UpstreamEvent StreamLeg)}

theorem Quiet.text? (quiet : event.Quiet) : event.text? = none := by
  cases event <;> first | rfl | exact quiet.elim

theorem Quiet.selection? (quiet : event.Quiet) : event.selection? = none := by
  cases event <;> first | rfl | exact quiet.elim

theorem yieldedAny_of_quiet (quiet : ∀ event ∈ events, event.Quiet) : yieldedAny events = false := by
  rw [yieldedAny, List.any_eq_false]
  intro event member
  simp [(quiet event member).text?]

end UpstreamEvent

namespace Leg

variable {leg : StreamLeg} {request : ChatRequest} {n : ℕ}

/-- The record of a stream that ended. -/
def streamRecord (name : String) : Except ProviderError Unit → UpstreamEvent StreamLeg
  | .ok _ => .recordSuccess name
  | .error _ => .recordFailure name

/-- What one call leaves: the call, its chunks and its record. -/
def streamed (leg : StreamLeg) (request : ChatRequest) (n : ℕ) : List (UpstreamEvent StreamLeg) :=
  .called leg (leg.sent request) n ::
    ((leg.yields n).chunks.map .chunk ++ [streamRecord leg.provider.name (leg.yields n).ending])

/-- What is left of the call that decides the stream, with the selection before its first chunk. -/
def deciding (leg : StreamLeg) (request : ChatRequest) (n : ℕ) : List (UpstreamEvent StreamLeg) :=
  .called leg (leg.sent request) n ::
    ((if (leg.yields n).chunks = [] then [] else [.selected leg.provider (leg.sent request)]) ++
      (leg.yields n).chunks.map .chunk ++ [streamRecord leg.provider.name (leg.yields n).ending])

theorem settled_streaming (name : String) : settled name (leg.streaming request n) =
    ⟨.called leg (leg.sent request) n ::
      ((leg.yields n).chunks.map .chunk ++ [streamRecord name (leg.yields n).ending]),
      (leg.yields n).ending.mapError .provider⟩ := by
  cases ending : (leg.yields n).ending <;>
    simp [settled, streaming, BaseLLMProvider.streaming, ending, Except.mapError, streamRecord]

theorem yieldedAny_streaming : UpstreamEvent.yieldedAny (leg.streaming request n).events = true ↔
    (leg.yields n).chunks ≠ [] := by
  simp only [UpstreamEvent.yieldedAny, streaming, BaseLLMProvider.streaming]
  cases (leg.yields n).chunks <;> simp [UpstreamEvent.text?]

/-- The stream's failures without output are those the retry loop sees. -/
theorem silentError_played {played : Played} {error : ProviderError} :
    silentError played = some error ↔ played.chunks = [] ∧ played.ending = .error error := by
  obtain ⟨chunks, ending⟩ := played
  cases chunks <;> cases ending <;> simp [silentError]

theorem silentError_eq_none_iff {played : Played} :
    silentError played = none ↔ played.chunks ≠ [] ∨ played.ending = .ok () := by
  obtain ⟨chunks, ending⟩ := played
  cases chunks <;> cases ending <;> simp [silentError]

theorem stream_retried_iff : Retried (leg.streaming request n) ↔ final (leg.yields n) = false := by
  rw [final_eq_false_iff]
  refine exists_congr fun error => ?_
  have outcome : (leg.streaming request n).outcome = .error (.provider error) ↔
      (leg.yields n).ending = .error error := by
    rw [streaming, BaseLLMProvider.streaming]
    cases (leg.yields n).ending <;> simp [Except.mapError]
  rw [outcome, silentError_played, ← Bool.not_eq_true, yieldedAny_streaming, not_not]
  tauto

theorem stream_overflows_iff (error : ProviderError) (failed : silentError (leg.yields n) = some error) :
    Overflows (leg.streaming request) n ↔ backoffOverflows n error.retryAfterSeconds = true := by
  obtain ⟨-, ending⟩ := silentError_played.mp failed
  simp [Overflows, streaming, BaseLLMProvider.streaming, ending, Except.mapError]

/-- A call that fails without output leaves the call and the record of its failure. -/
theorem streamed_quiet (request : ChatRequest) (failed : silentError (leg.yields n) ≠ none) :
    ∀ event ∈ leg.streamed request n, event.Quiet := by
  obtain ⟨error, failed'⟩ := Option.ne_none_iff_exists'.mp failed
  obtain ⟨chunks, ending⟩ := silentError_played.mp failed'
  simp [streamed, chunks, ending, streamRecord, UpstreamEvent.Quiet, failed]

/-- Calls that are tried again leave a quiet log. -/
theorem settledLog_quiet (request : ChatRequest) (again : ∀ k < n, final (leg.yields k) = false) :
    ∀ event ∈ settledLog leg.provider.name (leg.streaming request) 0 n, event.Quiet := by
  intro event member
  simp only [settledLog, List.mem_flatMap, List.mem_range'_1, settled_streaming] at member
  obtain ⟨k, ⟨-, below⟩, member⟩ := member
  obtain ⟨error, failed, -⟩ := final_eq_false_iff.mp (again k (by omega))
  exact streamed_quiet request (by simp [failed]) event member

/-- How an admitted stream ends: with its last call, unless a delay overflows. -/
theorem stream_of_allowed (request : ChatRequest) (allowed : leg.allowed = true) :
    (leg.DelayOverflows ∧ ∃ log, (∀ event ∈ log, event.Quiet) ∧
        leg.stream request = ⟨log, .error .overflow⟩) ∨
      ¬ leg.DelayOverflows ∧ ∃ n, leg.calls = List.range (n + 1) ∧ (∀ k < n, final (leg.yields k) = false) ∧
        ∃ before, (∀ event ∈ before, event.Quiet) ∧ leg.stream request =
          ⟨before ++ leg.streamed request n, (leg.yields n).ending.mapError .provider⟩ := by
  have looped : leg.stream request =
      retryLoop leg.provider.name (leg.streaming request) leg.maxRetries 0 := by
    rw [stream, guarded, if_pos allowed, Int.toNat_natCast]
  rw [looped]
  rcases retryLoop_cases allowed (fun n => stream_retried_iff) (fun n => stream_overflows_iff) with
    ⟨wild, n, again, ended⟩ | ⟨calm, n, calls, again, ended⟩
  · exact .inl ⟨wild, _, settledLog_quiet request fun k below => again k (Nat.le_of_lt_succ below), ended⟩
  · refine .inr ⟨calm, n, calls, again, _, settledLog_quiet request again, ?_⟩
    rw [ended, ← settledLog_last, Nat.zero_add, settled_streaming]
    rfl

theorem stream_of_refused (refused : leg.allowed = false) :
    leg.stream request = ⟨[], .error (.provider (.unavailable leg.provider.name))⟩ := by
  rw [stream, guarded, refused]
  rfl

/-- A provider's stream fails without output, overflows, or is decided by one of its calls. -/
theorem stream_cases (leg : StreamLeg) (request : ChatRequest) :
    (∃ log, (∀ event ∈ log, event.Quiet) ∧ ∃ error, leg.stream request = ⟨log, .error (.provider error)⟩) ∨
      (∃ log, (∀ event ∈ log, event.Quiet) ∧ leg.stream request = ⟨log, .error .overflow⟩) ∨
      ∃ before n, (∀ event ∈ before, event.Quiet) ∧ silentError (leg.yields n) = none ∧
        leg.stream request = ⟨before ++ leg.streamed request n, (leg.yields n).ending.mapError .provider⟩ := by
  cases allowed : leg.allowed with
  | false => exact .inl ⟨[], by simp, _, stream_of_refused allowed⟩
  | true =>
    rcases stream_of_allowed request allowed with
      ⟨-, log, quiet, streamed⟩ | ⟨-, n, -, -, before, quiet, streamed⟩
    · exact .inr (.inl ⟨log, quiet, streamed⟩)
    · by_cases decisive : silentError (leg.yields n) = none
      · exact .inr (.inr ⟨before, n, quiet, decisive, streamed⟩)
      · obtain ⟨error, failed⟩ := Option.ne_none_iff_exists'.mp decisive
        refine .inl ⟨_, List.forall_mem_append.mpr ⟨quiet, streamed_quiet request decisive⟩, error, ?_⟩
        rw [streamed, (silentError_played.mp failed).2]
        rfl

end Leg

namespace RoutingService

variable {leg : StreamLeg} {legs rest : List StreamLeg} {request : ChatRequest} {n : ℕ}
  {errors : List (String × ProviderError)} {run : Logged Raised (UpstreamEvent StreamLeg) Unit}

/-- The chunks the consumer reads. -/
def delivered (run : Logged Raised (UpstreamEvent StreamLeg) Unit) : List String :=
  run.events.filterMap UpstreamEvent.text?

/-- The arguments of the calls of `on_provider_selected`. -/
def selections (run : Logged Raised (UpstreamEvent StreamLeg) Unit) : List (Provider × ChatRequest) :=
  run.events.filterMap UpstreamEvent.selection?

/-- The `n`-th upstream call of `leg` yields or succeeds, and the run is this call: nothing is delivered
before it, nothing starts after it, and the run ends as it does. -/
structure DecidedBy (request : ChatRequest) (run : Logged Raised (UpstreamEvent StreamLeg) Unit)
    (leg : StreamLeg) (n : ℕ) : Prop where
  decisive : (leg.yields n).chunks ≠ [] ∨ (leg.yields n).ending = .ok ()
  delivered : delivered run = (leg.yields n).chunks
  selections : selections run =
    if (leg.yields n).chunks = [] then [] else [(leg.provider, leg.sent request)]
  log : ∃ before, (∀ event ∈ before, event.Quiet) ∧
    run.events = before ++ leg.deciding request n
  outcome : run.outcome = (leg.yields n).ending.mapError .provider

/-- No upstream call yields or succeeds: nothing is delivered, and every provider is listed in order
with its last error, after those of earlier ones. -/
structure Exhausts (errors : List (String × ProviderError)) (legs : List StreamLeg)
    (run : Logged Raised (UpstreamEvent StreamLeg) Unit) : Prop where
  quiet : ∀ event ∈ run.events, event.Quiet
  outcome : run.outcome =
    .error (.exhausted (errors ++ legs.map fun leg => (leg.provider.name, leg.lastError)))

/-- One upstream call decides the run, or none does. -/
def SingleSource (request : ChatRequest) (errors : List (String × ProviderError)) (legs : List StreamLeg)
    (run : Logged Raised (UpstreamEvent StreamLeg) Unit) : Prop :=
  (∃ leg ∈ legs, ∃ n, DecidedBy request run leg n) ∨ Exhausts errors legs run

theorem announce_of_quiet {quiet : List (UpstreamEvent StreamLeg)} (silent : ∀ event ∈ quiet, event.Quiet)
    (provider : Provider) (request : ChatRequest) (later : List (UpstreamEvent StreamLeg)) :
    announce provider request (quiet ++ later) = quiet ++ announce provider request later := by
  induction quiet with
  | nil => rfl
  | cons event quiet ih =>
    obtain ⟨here, others⟩ := List.forall_mem_cons.mp silent
    rw [List.cons_append, List.cons_append, ← ih others]
    cases event <;> first | rfl | exact here.elim

theorem announce_eq_of_quiet {quiet : List (UpstreamEvent StreamLeg)} (silent : ∀ event ∈ quiet, event.Quiet)
    (provider : Provider) (request : ChatRequest) : announce provider request quiet = quiet := by
  have through := announce_of_quiet silent provider request []
  rwa [List.append_nil, announce, List.append_nil] at through

theorem announce_streamed : announce leg.provider (leg.sent request) (leg.streamed request n) =
    leg.deciding request n := by
  rw [Leg.streamed, Leg.deciding]
  cases (leg.yields n).chunks with
  | nil => cases (leg.yields n).ending <;> rfl
  | cons chunk chunks => rfl

theorem text?_chunks (chunks : List String) :
    (chunks.map (.chunk : String → UpstreamEvent StreamLeg)).filterMap UpstreamEvent.text? = chunks := by
  rw [List.filterMap_map]
  exact List.filterMap_some

theorem text?_streamed : (leg.streamed request n).filterMap UpstreamEvent.text? = (leg.yields n).chunks := by
  rw [Leg.streamed, List.filterMap_cons_none rfl, List.filterMap_append, text?_chunks]
  cases (leg.yields n).ending <;> simp [List.filterMap_cons, Leg.streamRecord, UpstreamEvent.text?]

theorem text?_deciding : (leg.deciding request n).filterMap UpstreamEvent.text? = (leg.yields n).chunks := by
  rw [Leg.deciding, List.filterMap_cons_none rfl, List.filterMap_append, List.filterMap_append, text?_chunks]
  cases (leg.yields n).ending <;> split <;>
    simp [List.filterMap_cons, Leg.streamRecord, UpstreamEvent.text?, *]

theorem selection?_deciding : (leg.deciding request n).filterMap UpstreamEvent.selection? =
    if (leg.yields n).chunks = [] then [] else [(leg.provider, leg.sent request)] := by
  have chunks : ((leg.yields n).chunks.map (.chunk : String → UpstreamEvent StreamLeg)).filterMap
      UpstreamEvent.selection? = [] := by
    rw [List.filterMap_map, List.filterMap_eq_nil_iff]
    exact fun _ _ => rfl
  rw [Leg.deciding, List.filterMap_cons_none rfl, List.filterMap_append, List.filterMap_append, chunks]
  cases (leg.yields n).ending <;> split <;>
    simp [List.filterMap_cons, Leg.streamRecord, UpstreamEvent.selection?]

/-- A log of this shape is that of a run its last call decides. -/
theorem decidedBy_of_log {before : List (UpstreamEvent StreamLeg)}
    (decisive : silentError (leg.yields n) = none) (quiet : ∀ event ∈ before, event.Quiet) :
    DecidedBy request ⟨before ++ leg.deciding request n, (leg.yields n).ending.mapError .provider⟩ leg n where
  decisive := Leg.silentError_eq_none_iff.mp decisive
  delivered := by
    rw [RoutingService.delivered, List.filterMap_append, text?_deciding]
    rw [List.filterMap_eq_nil_iff.mpr fun event member => (quiet event member).text?, List.nil_append]
  selections := by
    rw [RoutingService.selections, List.filterMap_append, selection?_deciding]
    rw [List.filterMap_eq_nil_iff.mpr fun event member => (quiet event member).selection?, List.nil_append]
  log := ⟨before, quiet, rfl⟩
  outcome := rfl

/-- A quiet beginning does not change who decides. -/
theorem DecidedBy.append {before : List (UpstreamEvent StreamLeg)} (decided : DecidedBy request run leg n)
    (quiet : ∀ event ∈ before, event.Quiet) :
    DecidedBy request ⟨before ++ run.events, run.outcome⟩ leg n := by
  obtain ⟨others, quiet', events⟩ := decided.log
  rw [events, ← List.append_assoc, decided.outcome]
  apply decidedBy_of_log (Leg.silentError_eq_none_iff.mpr decided.decisive)
  exact List.forall_mem_append.mpr ⟨quiet, quiet'⟩

/-- The loop after a provider that fails. -/
theorem streamEach_of_failed {log : List (UpstreamEvent StreamLeg)} {error : ProviderError}
    (quiet : ∀ event ∈ log, event.Quiet) (streamed : leg.stream request = ⟨log, .error (.provider error)⟩) :
    streamEach request errors (leg :: rest) =
      ⟨log ++ (streamEach request (errors ++ [(leg.provider.name, error)]) rest).events,
        (streamEach request (errors ++ [(leg.provider.name, error)]) rest).outcome⟩ := by
  have announced := announce_eq_of_quiet quiet leg.provider (leg.sent request)
  simp only [streamEach, streamed, announced, Logged.recover_error, UpstreamEvent.yieldedAny_of_quiet quiet,
    Bool.false_eq_true, if_false]

/-- The loop at a provider whose delay overflows. -/
theorem streamEach_of_overflow {log : List (UpstreamEvent StreamLeg)} (quiet : ∀ event ∈ log, event.Quiet)
    (streamed : leg.stream request = ⟨log, .error .overflow⟩) :
    streamEach request errors (leg :: rest) = leg.stream request := by
  have announced := announce_eq_of_quiet quiet leg.provider (leg.sent request)
  simp only [streamEach, streamed, announced]
  apply Logged.recover_of_reraised
  intro error raised
  obtain rfl := Except.error.inj raised
  rfl

/-- The loop at the provider whose call decides. -/
theorem streamEach_of_decisive {before : List (UpstreamEvent StreamLeg)}
    (decisive : silentError (leg.yields n) = none) (quiet : ∀ event ∈ before, event.Quiet)
    (streamed : leg.stream request =
      ⟨before ++ leg.streamed request n, (leg.yields n).ending.mapError .provider⟩) :
    streamEach request errors (leg :: rest) =
      ⟨before ++ leg.deciding request n, (leg.yields n).ending.mapError .provider⟩ := by
  have announced : announce leg.provider (leg.sent request) (before ++ leg.streamed request n) =
      before ++ leg.deciding request n := by
    rw [announce_of_quiet quiet, announce_streamed]
  simp only [streamEach, streamed, announced]
  apply Logged.recover_of_reraised
  intro error raised
  cases ending : (leg.yields n).ending with
  | ok _ => simp [ending, Except.mapError] at raised
  | error failure =>
    obtain rfl : Raised.provider failure = error := by simpa [ending, Except.mapError] using raised
    have chunks : (leg.yields n).chunks ≠ [] := by
      simpa [ending] using Leg.silentError_eq_none_iff.mp decisive
    have yielded : UpstreamEvent.yieldedAny (before ++ leg.streamed request n) = true := by
      obtain ⟨chunk, chunks', parts⟩ := List.exists_cons_of_ne_nil chunks
      simp [UpstreamEvent.yieldedAny, Leg.streamed, parts, UpstreamEvent.text?]
    simp only [yielded, if_true]

theorem Exhausts.append {before : List (UpstreamEvent StreamLeg)} (quiet : ∀ event ∈ before, event.Quiet)
    (exhausts : Exhausts (errors ++ [(leg.provider.name, leg.lastError)]) rest run) :
    Exhausts errors (leg :: rest) ⟨before ++ run.events, run.outcome⟩ where
  quiet := List.forall_mem_append.mpr ⟨quiet, exhausts.quiet⟩
  outcome := by rw [exhausts.outcome, List.append_assoc, List.singleton_append, List.map_cons]

/-- A provider that fails leaves the source of the run to the rest of the list. -/
theorem SingleSource.cons {log : List (UpstreamEvent StreamLeg)} (quiet : ∀ event ∈ log, event.Quiet)
    (streamed : leg.stream request = ⟨log, .error (.provider leg.lastError)⟩)
    (source : SingleSource request (errors ++ [(leg.provider.name, leg.lastError)]) rest
      (streamEach request (errors ++ [(leg.provider.name, leg.lastError)]) rest)) :
    SingleSource request errors (leg :: rest) (streamEach request errors (leg :: rest)) := by
  rw [streamEach_of_failed quiet streamed]
  rcases source with ⟨other, member, n, decided⟩ | exhausts
  · exact .inl ⟨other, List.mem_cons_of_mem leg member, n, decided.append quiet⟩
  · exact .inr (exhausts.append quiet)

/-- How the loop ends: with one source, or in an overflow at a provider it tries. -/
def Settles (request : ChatRequest) (errors : List (String × ProviderError)) (legs : List StreamLeg) : Prop :=
  Leg.DelaysFit legs ∧ SingleSource request errors legs (streamEach request errors legs) ∨
    ¬ Leg.DelaysFit legs ∧ (streamEach request errors legs).outcome = .error .overflow

/-- A provider that fails leaves the end of the loop to the rest of the list. -/
theorem Settles.cons {log : List (UpstreamEvent StreamLeg)} (fails : leg.Fails) (calm : ¬ leg.DelayOverflows)
    (quiet : ∀ event ∈ log, event.Quiet)
    (streamed : leg.stream request = ⟨log, .error (.provider leg.lastError)⟩)
    (settles : Settles request (errors ++ [(leg.provider.name, leg.lastError)]) rest) :
    Settles request errors (leg :: rest) := by
  rcases settles with ⟨fit, source⟩ | ⟨wild, raised⟩
  · exact .inl ⟨Leg.delaysFit_cons.mpr ⟨calm, fun _ => fit⟩, source.cons quiet streamed⟩
  · refine .inr ⟨fun fit => wild ((Leg.delaysFit_cons.mp fit).2 fails), ?_⟩
    rw [streamEach_of_failed quiet streamed, raised]

theorem settles (request : ChatRequest) (errors : List (String × ProviderError)) (legs : List StreamLeg) :
    Settles request errors legs := by
  induction legs generalizing errors with
  | nil =>
    refine .inl ⟨Leg.delaysFit_nil, .inr ⟨by simp [streamEach, Logged.raise], ?_⟩⟩
    rw [List.map_nil, List.append_nil]
    rfl
  | cons leg rest ih =>
    cases allowed : leg.allowed with
    | false =>
      have calls := Leg.calls_of_refused allowed
      have fails : leg.Fails := by simp [Leg.Fails, calls]
      have calm : ¬ leg.DelayOverflows := fun wild => Bool.false_ne_true (allowed.symm.trans wild.1)
      have last : leg.lastError = .unavailable leg.provider.name := by rw [Leg.lastError, calls]; rfl
      have streamed : leg.stream request = ⟨[], .error (.provider leg.lastError)⟩ := by
        rw [Leg.stream_of_refused allowed, last]
      exact Settles.cons fails calm (by simp) streamed (ih _)
    | true =>
      rcases Leg.stream_of_allowed request allowed with
        ⟨wild, log, quiet, streamed⟩ | ⟨calm, n, calls, again, before, quiet, streamed⟩
      · refine .inr ⟨fun fit => (Leg.delaysFit_cons.mp fit).1 wild, ?_⟩
        rw [streamEach, streamed]
        rfl
      · by_cases decisive : silentError (leg.yields n) = none
        · have rests : ¬ leg.Fails := fun fails => (Leg.fails_iff calls again).mp fails decisive
          refine .inl ⟨Leg.delaysFit_cons.mpr ⟨calm, fun fails => absurd fails rests⟩, .inl ?_⟩
          rw [streamEach_of_decisive decisive quiet streamed]
          exact ⟨leg, List.mem_cons_self, n, decidedBy_of_log decisive quiet⟩
        · obtain ⟨error, failed⟩ := Option.ne_none_iff_exists'.mp decisive
          have last : leg.lastError = error := Leg.lastError_eq calls failed
          have silent : ∀ event ∈ before ++ leg.streamed request n, event.Quiet :=
            List.forall_mem_append.mpr ⟨quiet, Leg.streamed_quiet request decisive⟩
          rw [(Leg.silentError_played.mp failed).2, ← last] at streamed
          exact Settles.cons ((Leg.fails_iff calls again).mpr decisive) calm silent streamed (ih _)

/-- What one provider's stream delivers, as the routing loop sees it. -/
def scriptOf (played : Logged Raised (UpstreamEvent StreamLeg) Unit) : StreamScript where
  chunks := delivered played
  raised :=
    match played.outcome with
    | .ok _ => none
    | .error error => some error

theorem scriptOf_outcome (played : Logged Raised (UpstreamEvent StreamLeg) Unit) :
    (scriptOf played).raised.elim (.ok ()) .error = played.outcome := by
  rw [scriptOf]
  cases played.outcome <;> rfl

theorem delivered_of_quiet {log : List (UpstreamEvent StreamLeg)} {outcome : Except Raised Unit}
    (quiet : ∀ event ∈ log, event.Quiet) : delivered ⟨log, outcome⟩ = [] :=
  List.filterMap_eq_nil_iff.mpr fun event member => (quiet event member).text?

theorem delivered_append {log : List (UpstreamEvent StreamLeg)} (quiet : ∀ event ∈ log, event.Quiet) :
    delivered ⟨log ++ run.events, run.outcome⟩ = delivered run := by
  rw [delivered, List.filterMap_append,
    List.filterMap_eq_nil_iff.mpr fun event member => (quiet event member).text?]
  rfl

theorem selections_append {log : List (UpstreamEvent StreamLeg)} (quiet : ∀ event ∈ log, event.Quiet) :
    selections ⟨log ++ run.events, run.outcome⟩ = selections run := by
  rw [selections, List.filterMap_append,
    List.filterMap_eq_nil_iff.mpr fun event member => (quiet event member).selection?]
  rfl

/-- The routing loop stops at an attempt that yields, ends well or raises another exception. -/
theorem streamFrom_stops (errors : List (String × ProviderError)) (attempts : List Attempt)
    {script : Provider → ChatRequest → StreamScript} {provider : Provider} {model : String}
    {played : StreamScript} (scripted : script provider (attemptRequest request model) = played)
    (stops : played.chunks = [] → ∀ error, played.raised ≠ some (.provider error)) :
    let routed := streamFrom script request errors ((provider, model) :: attempts)
    routed.chunks = played.chunks ∧
      routed.selection = selected provider (attemptRequest request model) played.chunks ∧
      routed.outcome = played.raised.elim (.ok ()) .error := by
  obtain ⟨chunks, raised⟩ := played
  match raised with
  | none => simp [streamFrom, scripted]
  | some (.provider error) =>
    have yielded : chunks ≠ [] := fun none => stops none error rfl
    simp [streamFrom, scripted, yielded]
  | some (.exhausted _) => simp [streamFrom, scripted]
  | some (.value _) => simp [streamFrom, scripted]
  | some (.shape _) => simp [streamFrom, scripted]
  | some .overflow => simp [streamFrom, scripted]
  | some .library => simp [streamFrom, scripted]

/-- The chunks, the selection and the end are those of the routing loop over the same attempts. -/
theorem streamFrom_eq {script : Provider → ChatRequest → StreamScript}
    (scripted : ∀ leg ∈ legs, script leg.provider (leg.sent request) = scriptOf (leg.stream request)) :
    let routed := streamFrom script request errors (legs.map fun leg => (leg.provider, leg.model))
    routed.chunks = delivered (streamEach request errors legs) ∧
      routed.selection = (selections (streamEach request errors legs)).head? ∧
      routed.outcome = (streamEach request errors legs).outcome := by
  induction legs generalizing errors with
  | nil => exact ⟨rfl, rfl, rfl⟩
  | cons leg rest ih =>
    obtain ⟨here, later⟩ := List.forall_mem_cons.mp scripted
    have script' : script leg.provider (attemptRequest request leg.model) =
        scriptOf (leg.stream request) := here
    rcases leg.stream_cases request with ⟨log, quiet, error, streamed⟩ | ⟨log, quiet, streamed⟩ |
      ⟨before, n, quiet, decisive, streamed⟩
    · have silent : scriptOf (leg.stream request) = ⟨[], some (.provider error)⟩ := by
        rw [streamed, scriptOf, delivered_of_quiet quiet]
      rw [streamEach_of_failed quiet streamed, delivered_append quiet, selections_append quiet]
      simpa only [List.map_cons, streamFrom, script', silent, if_true] using ih later
    · have none : delivered (leg.stream request) = [] := by rw [streamed, delivered_of_quiet quiet]
      have noSelection : selections (leg.stream request) = [] := by
        rw [streamed]
        exact List.filterMap_eq_nil_iff.mpr fun event member => (quiet event member).selection?
      obtain ⟨chunks, selection, outcome⟩ := streamFrom_stops errors
        (rest.map fun leg => (leg.provider, leg.model)) script' (by simp [scriptOf, streamed])
      rw [streamEach_of_overflow quiet streamed, noSelection, ← scriptOf_outcome]
      exact ⟨chunks, selection.trans (by rw [scriptOf, none]; rfl), outcome⟩
    · have yielded : delivered (leg.stream request) = (leg.yields n).chunks := by
        rw [streamed, delivered, List.filterMap_append, text?_streamed]
        rw [List.filterMap_eq_nil_iff.mpr fun event member => (quiet event member).text?, List.nil_append]
      have stops : (scriptOf (leg.stream request)).chunks = [] →
          ∀ error, (scriptOf (leg.stream request)).raised ≠ some (.provider error) := by
        intro none error
        have ended := (Leg.silentError_eq_none_iff.mp decisive).resolve_left (not_not.mpr (yielded ▸ none))
        simp [scriptOf, streamed, ended, Except.mapError]
      obtain ⟨chunks, selection, outcome⟩ := streamFrom_stops errors
        (rest.map fun leg => (leg.provider, leg.model)) script' stops
      have decided : DecidedBy request _ leg n := decidedBy_of_log decisive quiet
      rw [streamEach_of_decisive decisive quiet streamed, decided.delivered, decided.selections]
      refine ⟨chunks.trans yielded, selection.trans ?_, outcome.trans ?_⟩
      · have chunks' : (scriptOf (leg.stream request)).chunks = (leg.yields n).chunks := yielded
        rw [chunks', selected]
        split <;> rfl
      · rw [scriptOf_outcome, streamed]

theorem SingleSource.ne_overflow (source : SingleSource request errors legs run) :
    run.outcome ≠ .error .overflow := by
  rcases source with ⟨leg, -, n, decided⟩ | exhausts
  · rw [decided.outcome]
    cases (leg.yields n).ending <;> simp [Except.mapError]
  · simp [exhausts.outcome]

/-- The stream has one source exactly when no delay overflows at a provider it tries. -/
theorem streamEach_singleSource_iff (request : ChatRequest) (legs : List StreamLeg) :
    SingleSource request [] legs (streamEach request [] legs) ↔ Leg.DelaysFit legs := by
  rcases settles request [] legs with ⟨fit, source⟩ | ⟨wild, raised⟩
  · exact iff_of_true source fit
  · exact iff_of_false (fun source => source.ne_overflow raised) wild

/-- A provider whose every stream is refused as overloaded, with a budget of 1025 retries. -/
def overloadedStream : StreamLeg where
  provider := ⟨"openai", fun _ => true⟩
  model := "gpt-4o"
  maxRetries := 1025
  allowed := true
  yields := fun _ => ⟨[], .error (.response "overloaded" 503)⟩

/-- No call yields or succeeds, and `OverflowError` is raised instead of the list of providers. -/
theorem streamEach_overloaded :
    ¬ SingleSource gptRequest [] [overloadedStream] (streamEach gptRequest [] [overloadedStream]) ∧
      (∀ n, silentError (overloadedStream.yields n) ≠ none) ∧
      (streamEach gptRequest [] [overloadedStream]).outcome = .error .overflow := by
  have overflows : overloadedStream.DelayOverflows :=
    ⟨rfl, 1024, by decide, Nat.le_refl _, fun _ _ => rfl, _, rfl, rfl, rfl⟩
  have wild : ¬ Leg.DelaysFit [overloadedStream] :=
    fun fit => fit [] overloadedStream [] rfl nofun overflows
  have raised : (streamEach gptRequest [] [overloadedStream]).outcome = .error .overflow := by
    rcases settles gptRequest [] [overloadedStream] with ⟨fit, -⟩ | ⟨-, raised⟩
    · exact absurd fit wild
    · exact raised
  refine ⟨fun source => source.ne_overflow raised, fun n => ?_, raised⟩
  exact Option.some_ne_none (ProviderError.response "overloaded" 503)

end RoutingService

end LlmopsGateway
