import LlmopsGateway.Soundness.AttemptResolution
import LlmopsGateway.Soundness.RetryBudget

/-! # Retry and fallback, specified by one scan

A completion scans the upstream outcomes of its providers in order. A provider whose breaker refuses
contributes none, an admitted one its outcomes up to the first success, the first error that is not
retryable or the end of its budget. The scan stops with the first success it meets. The loops are this
scan unless a backoff delay overflows on the way.
-/

namespace LlmopsGateway

open Machine BaseLLMProvider UpstreamOutcome

namespace Leg

variable {leg : CompleteLeg} {request : ChatRequest} {n : ℕ}

def record (name : String) : Except ProviderError ChatResponse → UpstreamEvent CompleteLeg
  | .ok _ => .recordSuccess name
  | .error _ => .recordFailure name

/-- An upstream call and its record in the breaker. -/
def entry (leg : CompleteLeg) (request : ChatRequest) (n : ℕ) : List (UpstreamEvent CompleteLeg) :=
  [.called leg (leg.sent request) n, record leg.provider.name (leg.yields n)]

theorem retried_iff : Retried (leg.completion request n) ↔ final (leg.yields n) = false := by
  cases yields : leg.yields n <;>
    simp [Retried, completion, BaseLLMProvider.completion, yields, final, Except.mapError,
      UpstreamEvent.yieldedAny, UpstreamEvent.text?]

theorem overflows_iff (error : ProviderError) (failed : silentError (leg.yields n) = some error) :
    Overflows (leg.completion request) n ↔ backoffOverflows n error.retryAfterSeconds = true := by
  cases yields : leg.yields n with
  | ok response => simp [yields] at failed
  | error other =>
    obtain rfl : other = error := by simpa [yields] using failed
    simp [Overflows, completion, BaseLLMProvider.completion, yields, Except.mapError]

theorem settled_completion (name : String) : settled name (leg.completion request n) =
    ⟨[.called leg (leg.sent request) n, record name (leg.yields n)], (leg.yields n).mapError .provider⟩ := by
  cases yields : leg.yields n <;>
    simp [settled, completion, BaseLLMProvider.completion, yields, Except.mapError, record]

theorem settledLog_completion : settledLog leg.provider.name (leg.completion request) 0 n =
    (List.range n).flatMap (leg.entry request) := by
  simp only [settledLog, settled_completion, List.range_eq_range']
  rfl

/-- How an admitted provider ends: with its last call, unless a delay overflows. -/
theorem complete_of_allowed (request : ChatRequest) (allowed : leg.allowed = true) :
    (leg.DelayOverflows ∧ (leg.complete request).outcome = .error .overflow) ∨
      ¬ leg.DelayOverflows ∧ ∃ n, leg.calls = List.range (n + 1) ∧ (∀ k < n, final (leg.yields k) = false) ∧
        leg.complete request =
          ⟨leg.calls.flatMap (leg.entry request), (leg.yields n).mapError .provider⟩ := by
  have looped : leg.complete request =
      retryLoop leg.provider.name (leg.completion request) leg.maxRetries 0 := by
    rw [complete, guarded, if_pos allowed, Int.toNat_natCast]
  rw [looped]
  rcases retryLoop_cases allowed (fun n => retried_iff) (fun n => overflows_iff) with
    ⟨wild, n, -, ended⟩ | ⟨calm, n, calls, again, ended⟩
  · exact .inl ⟨wild, by rw [ended]⟩
  · refine .inr ⟨calm, n, calls, again, ?_⟩
    rw [ended, settledLog_completion, calls]
    rfl

theorem complete_of_refused (refused : leg.allowed = false) :
    leg.complete request = ⟨[], .error (.provider (.unavailable leg.provider.name))⟩ := by
  rw [complete, guarded, refused]
  rfl

end Leg

namespace RoutingService

variable {leg : CompleteLeg} {legs rest : List CompleteLeg} {request : ChatRequest}
  {errors : List (String × ProviderError)}

/-- The outcomes a scan of all providers can meet, each with its provider and its number. -/
def scanned (legs : List CompleteLeg) : List (CompleteLeg × ℕ) :=
  legs.flatMap fun leg => leg.calls.map fun n => (leg, n)

/-- The response of an upstream call, if it is a success. -/
def success (call : CompleteLeg × ℕ) : Option ChatResponse := (call.1.yields call.2).toOption

def firstSuccess (legs : List CompleteLeg) : Option ChatResponse := (scanned legs).findSome? success

/-- The scan: its calls, each with one record, up to the first success, and what it returns or raises;
`errors` are those of earlier providers. -/
def scan (request : ChatRequest) (errors : List (String × ProviderError)) (legs : List CompleteLeg) :
    Logged Raised (UpstreamEvent CompleteLeg) ChatResponse where
  events := (takeThrough (fun call => (success call).isSome) (scanned legs)).flatMap
    fun call => call.1.entry request call.2
  outcome :=
    match firstSuccess legs with
    | some response => .ok response
    | none => .error (.exhausted (errors ++ legs.map fun leg => (leg.provider.name, leg.lastError)))

theorem success_eq_none_iff {n : ℕ} : success (leg, n) = none ↔ silentError (leg.yields n) ≠ none := by
  rw [success]
  cases leg.yields n <;> simp [Except.toOption]

theorem scanned_cons : scanned (leg :: rest) = (leg.calls.map fun n => (leg, n)) ++ scanned rest := rfl

theorem entries_eq (calls : List ℕ) : (calls.map fun n => (leg, n)).flatMap
    (fun call => call.1.entry request call.2) = calls.flatMap (leg.entry request) := by
  rw [List.flatMap_map]

/-- A provider that fails is scanned through. -/
theorem scan_of_failed (fails : leg.Fails) :
    scan request errors (leg :: rest) =
      ⟨leg.calls.flatMap (leg.entry request) ++
          (scan request (errors ++ [(leg.provider.name, leg.lastError)]) rest).events,
        (scan request (errors ++ [(leg.provider.name, leg.lastError)]) rest).outcome⟩ := by
  have failed : ∀ n ∈ leg.calls, success (leg, n) = none :=
    fun n member => success_eq_none_iff.mpr (fails n member)
  have missed : ∀ call ∈ leg.calls.map fun n => (leg, n), (success call).isSome = false := by
    rw [List.forall_mem_map]
    exact fun n member => by rw [failed n member]; rfl
  have none : (leg.calls.map fun n => (leg, n)).findSome? success = none := by
    rw [List.findSome?_eq_none_iff, List.forall_mem_map]
    exact failed
  simp only [scan, firstSuccess, scanned_cons, takeThrough_append missed, List.flatMap_append, entries_eq,
    List.findSome?_append, none, Option.none_or, List.map_cons, List.append_assoc, List.singleton_append]

/-- A provider whose last call is a success ends the scan. -/
theorem scan_of_succeeded {n : ℕ} {response : ChatResponse} (calls : leg.calls = List.range (n + 1))
    (again : ∀ k < n, Leg.final (leg.yields k) = false) (succeeded : leg.yields n = .ok response) :
    scan request errors (leg :: rest) = ⟨leg.calls.flatMap (leg.entry request), .ok response⟩ := by
  have last : success (leg, n) = some response := by rw [success, succeeded]; rfl
  have failed : ∀ k < n, success (leg, k) = none := by
    intro k below
    obtain ⟨error, failed, -⟩ := Leg.final_eq_false_iff.mp (again k below)
    rw [success_eq_none_iff, failed]
    exact Option.some_ne_none error
  have missed : ∀ call ∈ (List.range n).map fun n => (leg, n), (success call).isSome = false := by
    rw [List.forall_mem_map]
    exact fun k member => by rw [failed k (List.mem_range.mp member)]; rfl
  have none : ((List.range n).map fun n => (leg, n)).findSome? success = none := by
    rw [List.findSome?_eq_none_iff, List.forall_mem_map]
    exact fun k member => failed k (List.mem_range.mp member)
  have parted : scanned (leg :: rest) =
      ((List.range n).map fun n => (leg, n)) ++ (leg, n) :: scanned rest := by
    rw [scanned_cons, calls, List.range_succ, List.map_append, List.append_assoc]
    rfl
  have events : (scan request errors (leg :: rest)).events = leg.calls.flatMap (leg.entry request) := by
    rw [scan, parted, takeThrough_append missed, takeThrough_cons_of_hit (by rw [last]; rfl), calls,
      List.range_succ, List.flatMap_append, List.flatMap_append, entries_eq, List.flatMap_singleton,
      List.flatMap_singleton]
  have outcome : (scan request errors (leg :: rest)).outcome = .ok response := by
    simp only [scan, firstSuccess, parted, List.findSome?_append, none, Option.none_or,
      List.findSome?_cons, last]
  rw [← events, ← outcome]

theorem scan_ne_overflow (request : ChatRequest) (errors : List (String × ProviderError))
    (legs : List CompleteLeg) : (scan request errors legs).outcome ≠ .error .overflow := by
  rw [scan]
  dsimp only
  split <;> simp

/-- The loop over a provider that fails goes on with its last error. -/
theorem completeEach_of_failed {log : List (UpstreamEvent CompleteLeg)} {error : ProviderError}
    (completed : leg.complete request = ⟨log, .error (.provider error)⟩) :
    completeEach request errors (leg :: rest) =
      ⟨log ++ (completeEach request (errors ++ [(leg.provider.name, error)]) rest).events,
        (completeEach request (errors ++ [(leg.provider.name, error)]) rest).outcome⟩ := by
  rw [completeEach, completed]
  rfl

/-- The outcome is that of the routing loop over the same attempts. -/
theorem completeFrom_eq {serve : Provider → ChatRequest → Except Raised ChatResponse}
    (served : ∀ leg ∈ legs, serve leg.provider (leg.sent request) = (leg.complete request).outcome) :
    completeFrom serve request errors (legs.map fun leg => (leg.provider, leg.model)) =
      (completeEach request errors legs).outcome := by
  induction legs generalizing errors with
  | nil => rfl
  | cons leg rest ih =>
    obtain ⟨here, later⟩ := List.forall_mem_cons.mp served
    have sent : serve leg.provider (attemptRequest request leg.model) = (leg.complete request).outcome := here
    rw [List.map_cons, completeFrom, completeEach, Logged.recover, sent]
    split
    · simp_all
    · rename_i error raised
      rw [raised]
      exact ih later
    · rename_i other notProvider raised
      rw [raised]
      cases other <;> first | rfl | exact absurd rfl (notProvider _)

/-- A provider that fails leaves the rest of the list to the loop and to the scan alike. -/
theorem completeEach_eq_cons_iff (fails : leg.Fails)
    (completed : leg.complete request =
      ⟨leg.calls.flatMap (leg.entry request), .error (.provider leg.lastError)⟩) :
    completeEach request errors (leg :: rest) = scan request errors (leg :: rest) ↔
      completeEach request (errors ++ [(leg.provider.name, leg.lastError)]) rest =
        scan request (errors ++ [(leg.provider.name, leg.lastError)]) rest := by
  rw [completeEach_of_failed completed, scan_of_failed fails]
  constructor
  · intro same
    obtain ⟨events, outcome⟩ := Logged.mk.inj same
    exact Logged.ext (List.append_cancel_left events) outcome
  · intro same
    rw [same]

theorem completeEach_eq_iff (errors : List (String × ProviderError)) (legs : List CompleteLeg) :
    completeEach request errors legs = scan request errors legs ↔ Leg.DelaysFit legs := by
  induction legs generalizing errors with
  | nil =>
    apply iff_of_true
    · simp [completeEach, scan, firstSuccess, scanned, Logged.raise]
    · exact Leg.delaysFit_nil
  | cons leg rest ih =>
    cases allowed : leg.allowed with
    | false =>
      have calls := Leg.calls_of_refused allowed
      have fails : leg.Fails := by simp [Leg.Fails, calls]
      have calm : ¬ leg.DelayOverflows := fun wild => Bool.false_ne_true (allowed.symm.trans wild.1)
      have completed : leg.complete request =
          ⟨leg.calls.flatMap (leg.entry request), .error (.provider leg.lastError)⟩ := by
        rw [Leg.complete_of_refused allowed, Leg.lastError, calls]
        rfl
      rw [completeEach_eq_cons_iff fails completed, ih, Leg.delaysFit_cons]
      exact ⟨fun fit => ⟨calm, fun _ => fit⟩, fun fit => fit.2 fails⟩
    | true =>
      rcases Leg.complete_of_allowed request allowed with ⟨wild, raised⟩ | ⟨calm, n, calls, again, completed⟩
      · apply iff_of_false
        · intro same
          apply scan_ne_overflow request errors (leg :: rest)
          rw [← same, completeEach, Logged.recover, raised]
          rfl
        · exact fun fit => (Leg.delaysFit_cons.mp fit).1 wild
      · have fails := Leg.fails_iff calls again
        cases yields : leg.yields n with
        | ok response =>
          simp only [yields, silentError_ok, ne_eq, not_true_eq_false, iff_false] at fails
          apply iff_of_true
          · rw [scan_of_succeeded calls again yields, completeEach, completed, yields]
            rfl
          · exact Leg.delaysFit_cons.mpr ⟨calm, fun failed => absurd failed fails⟩
        | error error =>
          simp only [yields, silentError_error, ne_eq, reduceCtorEq, not_false_eq_true, iff_true] at fails
          have last : leg.lastError = error := Leg.lastError_eq calls (by rw [yields]; rfl)
          rw [yields] at completed
          rw [completeEach_eq_cons_iff fails (last.symm ▸ completed), ih, Leg.delaysFit_cons]
          exact ⟨fun fit => ⟨calm, fun _ => fit⟩, fun fit => fit.2 fails⟩

/-- The loops are the scan exactly when no delay overflows at a provider it visits. -/
theorem completeEach_eq_scan_iff (request : ChatRequest) (legs : List CompleteLeg) :
    completeEach request [] legs = scan request [] legs ↔ Leg.DelaysFit legs :=
  completeEach_eq_iff [] legs

/-- A provider whose every call is refused as overloaded, with a budget of 1025 retries. -/
def overloaded : CompleteLeg where
  provider := ⟨"openai", fun _ => true⟩
  model := "gpt-4o"
  maxRetries := 1025
  allowed := true
  yields := fun _ => .error (.response "overloaded" 503)

theorem overloaded_overflows : overloaded.DelayOverflows :=
  ⟨rfl, 1024, by decide, Nat.le_refl _, fun _ _ => rfl, _, rfl, rfl, rfl⟩

theorem overloaded_lastError : overloaded.lastError = .response "overloaded" 503 := by
  have calls : overloaded.calls = List.range (1025 + 1) :=
    Leg.calls_eq rfl (Nat.le_refl _) (fun _ _ => rfl) (.inl rfl)
  rw [Leg.lastError, calls, List.range_succ, List.getLast?_concat]
  rfl

/-- The scan makes its 1026 calls and lists the provider; the loop raises `OverflowError` instead. -/
theorem completeEach_overloaded :
    completeEach gptRequest [] [overloaded] ≠ scan gptRequest [] [overloaded] ∧
      (completeEach gptRequest [] [overloaded]).outcome = .error .overflow ∧
      (scan gptRequest [] [overloaded]).outcome =
        .error (.exhausted [("openai", .response "overloaded" 503)]) := by
  refine ⟨fun same => ?_, ?_, ?_⟩
  · have fit := (completeEach_eq_iff [] [overloaded]).mp same
    exact fit [] overloaded [] rfl nofun overloaded_overflows
  · have allowed : overloaded.allowed = true := rfl
    rcases Leg.complete_of_allowed gptRequest allowed with ⟨-, raised⟩ | ⟨calm, -⟩
    · rw [completeEach, Logged.recover, raised]
      rfl
    · exact absurd overloaded_overflows calm
  · have fails : overloaded.Fails := fun n _ => Option.some_ne_none (ProviderError.response "overloaded" 503)
    rw [scan_of_failed fails, overloaded_lastError]
    rfl

end RoutingService

end LlmopsGateway
