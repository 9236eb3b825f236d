import LlmopsGateway.Soundness.AttemptResolution
import LlmopsGateway.Soundness.ReplyShape
import LlmopsGateway.Soundness.RetryRuns
import LlmopsGateway.Soundness.ServedAttempt

/-! # Upstream failures that fall through

An attempt of an adapter ends in a response, in a `ProviderError`, or in an exception that neither
the retry loop nor the router catches. The conditions below are on the settings and on what the
HTTP requests end in: under them, and only then, a request is answered or every attempt is made.
-/

namespace LlmopsGateway

open Machine

namespace Posted

/-- A timeout, a transport error, an error status or a body that is not JSON. -/
def Fails : Posted → Prop
  | timeout _ => True
  | transport _ => True
  | escaped => False
  | reply received => 400 ≤ received.statusCode ∨ ∃ message, received.body = .error message

/-- The failures worth another attempt. -/
def retryable : Posted → Bool
  | timeout _ => true
  | transport _ => true
  | escaped => false
  | reply received => received.statusCode = 429 ∨ 500 ≤ received.statusCode

/-- The wait a rate-limited reply asks for. -/
def retryAfterSeconds : Posted → Option ℚ
  | reply received => if received.statusCode = 429 then received.retryAfter else none
  | _ => none

/-- A JSON body of the shape, with a status below 400. -/
def Answers (wellShaped : Json → Prop) : Posted → Prop
  | reply received => received.statusCode < 400 ∧ ∃ data, received.body = .ok data ∧ wellShaped data
  | _ => False

variable {label : String} {decode : Json → Except ShapeError ChatResponse} {posted : Posted}

/-- A response with a JSON body and no error status. -/
def Delivers (posted : Posted) (data : Json) : Prop :=
  ∃ received, posted = reply received ∧ received.statusCode < 400 ∧ received.body = .ok data

theorem Delivers.not_fails {data : Json} (delivers : posted.Delivers data) : ¬ posted.Fails := by
  obtain ⟨received, rfl, low, body⟩ := delivers
  rintro (high | ⟨message, other⟩)
  · omega
  · exact absurd (body.symm.trans other) nofun

theorem answers_iff {wellShaped : Json → Prop} :
    posted.Answers wellShaped ↔ ∃ data, posted.Delivers data ∧ wellShaped data := by
  constructor
  · intro answers
    cases posted with
    | reply received =>
      obtain ⟨low, data, body, shaped⟩ := answers
      exact ⟨data, ⟨received, rfl, low, body⟩, shaped⟩
    | _ => exact answers.elim
  · rintro ⟨data, ⟨received, rfl, low, body⟩, shaped⟩
    exact ⟨low, data, body, shaped⟩

theorem Delivers.unique {data other : Json} (delivers : posted.Delivers data)
    (delivers' : posted.Delivers other) : data = other := by
  obtain ⟨received, rfl, -, body⟩ := delivers
  obtain ⟨received', same, -, body'⟩ := delivers'
  cases same
  exact Except.ok.inj (body.symm.trans body')

/-- What the shared part of the adapters makes of an HTTP request. -/
theorem completeImplOf_cases (label : String) (decode : Json → Except ShapeError ChatResponse)
    (posted : Posted) :
    (posted.Fails ∧ ∃ error, completeImplOf label decode posted = .error (.provider error) ∧
      error.retryable = posted.retryable ∧ error.retryAfterSeconds = posted.retryAfterSeconds) ∨
    (∃ data, posted.Delivers data ∧
      ((∃ response, decode data = .ok response ∧ completeImplOf label decode posted = .ok response) ∨
        ∃ error, decode data = .error error ∧
          completeImplOf label decode posted = .error (.shape error))) ∨
    posted = .escaped ∧ completeImplOf label decode posted = .error .library := by
  cases posted with
  | timeout message => exact .inl ⟨trivial, _, rfl, rfl, rfl⟩
  | transport message => exact .inl ⟨trivial, _, rfl, rfl, rfl⟩
  | escaped => exact .inr (.inr ⟨rfl, rfl⟩)
  | reply received =>
    unfold completeImplOf
    by_cases limited : received.statusCode = 429
    · left
      simp [Fails, retryable, retryAfterSeconds, limited, ProviderError.rateLimited]
    · by_cases failed : 400 ≤ received.statusCode
      · left
        simp [Fails, retryable, retryAfterSeconds, limited, failed, ProviderError.response]
      · rcases body : received.body with message | data
        · left
          have low : ¬ 500 ≤ received.statusCode := by omega
          simp [Fails, retryable, retryAfterSeconds, limited, failed, body, low, ProviderError.response]
        · refine .inr (.inl ⟨data, ⟨received, rfl, by omega, body⟩, ?_⟩)
          rcases decoded : decode data with error | response <;>
            simp [limited, failed, body, decoded, Except.mapError]

/-- The typed failures of an adapter are the failed requests. -/
theorem failed_iff :
    (∃ error, completeImplOf label decode posted = .error (.provider error)) ↔ posted.Fails := by
  rcases completeImplOf_cases label decode posted with
    ⟨fails, error, raised, -⟩ | ⟨data, delivers, ⟨_, _, outcome⟩ | ⟨_, _, outcome⟩⟩ | ⟨rfl, outcome⟩
  · exact iff_of_true ⟨error, raised⟩ fails
  · exact iff_of_false (by simp [outcome]) delivers.not_fails
  · exact iff_of_false (by simp [outcome]) delivers.not_fails
  · exact iff_of_false (by simp [outcome]) id

theorem retryable_eq {error : ProviderError}
    (raised : completeImplOf label decode posted = .error (.provider error)) :
    error.retryable = posted.retryable ∧ error.retryAfterSeconds = posted.retryAfterSeconds := by
  rcases completeImplOf_cases label decode posted with
    ⟨_, other, outcome, same⟩ | ⟨_, _, ⟨_, _, outcome⟩ | ⟨_, _, outcome⟩⟩ | ⟨_, outcome⟩
  · obtain rfl := Raised.provider.inj (Except.error.inj (outcome.symm.trans raised))
    exact same
  · exact nomatch outcome.symm.trans raised
  · exact nomatch outcome.symm.trans raised
  · exact nomatch outcome.symm.trans raised

/-- The responses of an adapter come from the bodies it can take apart. -/
theorem answered_iff {wellShaped : Json → Prop}
    (shaped : ∀ data, (∃ response, decode data = .ok response) ↔ wellShaped data) :
    (∃ response, completeImplOf label decode posted = .ok response) ↔ posted.Answers wellShaped := by
  rw [answers_iff]
  rcases completeImplOf_cases label decode posted with
    ⟨fails, error, outcome, -⟩ | ⟨data, delivers, ⟨response, decoded, outcome⟩ | ⟨error, decoded, outcome⟩⟩ |
      ⟨rfl, outcome⟩
  · refine iff_of_false (by simp [outcome]) ?_
    rintro ⟨data, delivers, -⟩
    exact delivers.not_fails fails
  · exact iff_of_true ⟨response, outcome⟩ ⟨data, delivers, (shaped data).mp ⟨response, decoded⟩⟩
  · refine iff_of_false (by simp [outcome]) ?_
    rintro ⟨other, delivers', wellShaped⟩
    obtain rfl := delivers.unique delivers'
    obtain ⟨response, decoded'⟩ := (shaped data).mpr wellShaped
    exact nomatch decoded.symm.trans decoded'
  · refine iff_of_false (by simp [outcome]) ?_
    rintro ⟨data, ⟨received, same, -⟩, -⟩
    exact nomatch same

theorem completeImplOf_ne_exhausted (errors : List (String × ProviderError)) :
    completeImplOf label decode posted ≠ .error (.exhausted errors) := by
  rcases completeImplOf_cases label decode posted with
    ⟨_, _, outcome, _⟩ | ⟨_, _, ⟨_, _, outcome⟩ | ⟨_, _, outcome⟩⟩ | ⟨_, outcome⟩ <;>
    simp [outcome]

end Posted

/-- The bodies an adapter can take apart. -/
def Adapter.WellShaped (context : AdapterContext) : Adapter → Json → Prop
  | openai, data => ∃ fields, data = .obj fields ∧ OpenAIProvider.WellShaped context fields
  | anthropic, data => ∃ fields, data = .obj fields ∧ AnthropicProvider.WellShaped context fields

namespace Adapter

variable {context : AdapterContext} {request : ChatRequest} {adapter : Adapter} {posted : Posted}

theorem failed_iff :
    (∃ error, adapter.completeImpl context request posted = .error (.provider error)) ↔ posted.Fails := by
  cases adapter <;> exact Posted.failed_iff

theorem retryable_eq {error : ProviderError}
    (raised : adapter.completeImpl context request posted = .error (.provider error)) :
    error.retryable = posted.retryable ∧ error.retryAfterSeconds = posted.retryAfterSeconds := by
  cases adapter <;> exact Posted.retryable_eq raised

theorem answered_iff :
    (∃ response, adapter.completeImpl context request posted = .ok response) ↔
      posted.Answers (adapter.WellShaped context) := by
  cases adapter
  · exact Posted.answered_iff fun _ => OpenAIProvider.decode_ok_iff
  · exact Posted.answered_iff fun _ => AnthropicProvider.decode_ok_iff

theorem completeImpl_ne_exhausted (errors : List (String × ProviderError)) :
    adapter.completeImpl context request posted ≠ .error (.exhausted errors) := by
  cases adapter <;> exact Posted.completeImplOf_ne_exhausted errors

end Adapter

namespace Upstream

open BaseLLMProvider (Retried Overflows retryLoop completion backoffOverflows)

variable {upstream : Upstream} {context : AdapterContext} {provider : Provider} {sent : ChatRequest} {n : ℕ}

/-- The adapter that serves a provider, and the end of its `n`-th attempt. -/
def posted (upstream : Upstream) (provider : Provider) (sent : ChatRequest) (n : ℕ) : Posted :=
  upstream.post (Adapter.ofName provider.name) sent n

/-- The failure of the `n`-th attempt is worth another one. -/
def Again (upstream : Upstream) (provider : Provider) (sent : ChatRequest) (n : ℕ) : Prop :=
  (upstream.posted provider sent n).Fails ∧ (upstream.posted provider sent n).retryable = true

/-- The backoff delay after the `n`-th attempt overflows. -/
def DelayOverflows (upstream : Upstream) (provider : Provider) (sent : ChatRequest) (n : ℕ) : Prop :=
  backoffOverflows n (upstream.posted provider sent n).retryAfterSeconds = true

/-- The call makes its `n`-th attempt: it is admitted, and all before are failures worth a retry whose
delay does not overflow. -/
def Reaches (upstream : Upstream) (provider : Provider) (sent : ChatRequest) (n : ℕ) : Prop :=
  upstream.allowed (Adapter.ofName provider.name) = true ∧ n ≤ upstream.maxRetries.toNat ∧
    ∀ k < n, upstream.Again provider sent k ∧ ¬ upstream.DelayOverflows provider sent k

/-- The call ends in a `ProviderError`: it is not admitted, or its last attempt is a failure. -/
def Refuses (upstream : Upstream) (provider : Provider) (sent : ChatRequest) : Prop :=
  upstream.allowed (Adapter.ofName provider.name) = false ∨
    ∃ n, upstream.Reaches provider sent n ∧ (upstream.posted provider sent n).Fails ∧
      (n = upstream.maxRetries.toNat ∨ (upstream.posted provider sent n).retryable = false)

/-- The upstream calls of the retry loop. -/
def call (upstream : Upstream) (context : AdapterContext) (provider : Provider) (sent : ChatRequest)
    (n : ℕ) : Logged Raised (UpstreamEvent Adapter) ChatResponse :=
  completion (Adapter.ofName provider.name) sent n
    ((Adapter.ofName provider.name).completeImpl context sent (upstream.posted provider sent n))

theorem retried_iff : Retried (upstream.call context provider sent n) ↔ upstream.Again provider sent n := by
  constructor
  · rintro ⟨error, raised, retryable, -⟩
    exact ⟨Adapter.failed_iff.mp ⟨error, raised⟩, (Adapter.retryable_eq raised).1.symm.trans retryable⟩
  · rintro ⟨fails, retryable⟩
    obtain ⟨error, raised⟩ := Adapter.failed_iff.mpr fails
    exact ⟨error, raised, (Adapter.retryable_eq raised).1.trans retryable, rfl⟩

theorem overflows_iff (again : upstream.Again provider sent n) :
    Overflows (upstream.call context provider sent) n ↔ upstream.DelayOverflows provider sent n := by
  have failed : ∃ error, (upstream.call context provider sent n).outcome = .error (.provider error) :=
    Adapter.failed_iff.mpr again.1
  obtain ⟨error, raised⟩ := failed
  have wait := (Adapter.retryable_eq raised).2
  constructor
  · rintro ⟨other, raised', overflows⟩
    obtain rfl := Raised.provider.inj (Except.error.inj (raised.symm.trans raised'))
    rwa [wait] at overflows
  · intro overflows
    exact ⟨error, raised, wait.symm ▸ overflows⟩

theorem reaches_iff (allowed : upstream.allowed (Adapter.ofName provider.name) = true) :
    BaseLLMProvider.Reaches (upstream.call context provider sent) upstream.maxRetries.toNat 0 n ↔
      upstream.Reaches provider sent n := by
  have earlier (k : ℕ) : (Retried (upstream.call context provider sent (0 + k)) ∧
      ¬ Overflows (upstream.call context provider sent) (0 + k)) ↔
      upstream.Again provider sent k ∧ ¬ upstream.DelayOverflows provider sent k := by
    rw [Nat.zero_add, retried_iff]
    exact and_congr_right fun again => not_congr (overflows_iff again)
  constructor
  · rintro ⟨within, before⟩
    exact ⟨allowed, within, fun k below => (earlier k).mp (before k below)⟩
  · rintro ⟨-, within, before⟩
    exact ⟨within, fun k below => (earlier k).mpr (before k below)⟩

theorem serve_of_allowed (allowed : upstream.allowed (Adapter.ofName provider.name) = true) :
    upstream.serve context provider sent =
      (retryLoop provider.name (upstream.call context provider sent) upstream.maxRetries.toNat 0).outcome := by
  rw [serve, BaseLLMProvider.guarded, if_pos allowed]
  rfl

/-- An attempt that is reached and not retried decides the call. -/
theorem serve_eq (reaches : upstream.Reaches provider sent n)
    (last : n = upstream.maxRetries.toNat ∨ ¬ upstream.Again provider sent n) :
    upstream.serve context provider sent =
      (Adapter.ofName provider.name).completeImpl context sent (upstream.posted provider sent n) := by
  rw [serve_of_allowed reaches.1, ((reaches_iff reaches.1).mpr reaches).ended]
  · rw [Nat.zero_add]
    rfl
  · rw [Nat.zero_add, retried_iff]
    exact last

/-- An attempt that is retried decides the call when its delay overflows. -/
theorem serve_overflow (reaches : upstream.Reaches provider sent n) (below : n < upstream.maxRetries.toNat)
    (again : upstream.Again provider sent n) (overflows : upstream.DelayOverflows provider sent n) :
    upstream.serve context provider sent = .error .overflow := by
  rw [serve_of_allowed reaches.1, ((reaches_iff reaches.1).mpr reaches).overflowed below]
  · rw [Nat.zero_add]
    exact retried_iff.mpr again
  · rw [Nat.zero_add]
    exact (overflows_iff again).mpr overflows

/-- An admitted call has an attempt that decides it in one of the two ways. -/
theorem exists_deciding (context : AdapterContext)
    (allowed : upstream.allowed (Adapter.ofName provider.name) = true) :
    ∃ n, upstream.Reaches provider sent n ∧
      ((n = upstream.maxRetries.toNat ∨ ¬ upstream.Again provider sent n) ∨
        n < upstream.maxRetries.toNat ∧ upstream.Again provider sent n ∧
          upstream.DelayOverflows provider sent n) := by
  obtain ⟨n, reaches, last⟩ := BaseLLMProvider.exists_reaches (upstream.call context provider sent)
    upstream.maxRetries.toNat 0
  refine ⟨n, (reaches_iff allowed).mp reaches, ?_⟩
  rw [Nat.zero_add, retried_iff] at last
  refine last.imp_right fun ⟨below, again, overflows⟩ => ⟨below, again, (overflows_iff again).mp overflows⟩

theorem serve_of_refused (refused : upstream.allowed (Adapter.ofName provider.name) = false) :
    upstream.serve context provider sent = .error (.provider (.unavailable provider.name)) := by
  rw [serve, BaseLLMProvider.guarded, if_neg (by rw [refused]; exact Bool.false_ne_true)]
  rfl

/-- The calls that end in a `ProviderError`. -/
theorem serve_refused_iff :
    (∃ error, upstream.serve context provider sent = .error (.provider error)) ↔
      upstream.Refuses provider sent := by
  unfold Refuses
  rcases allowed : upstream.allowed (Adapter.ofName provider.name)
  · exact iff_of_true ⟨_, serve_of_refused allowed⟩ (.inl rfl)
  · constructor
    · intro failed
      obtain ⟨n, reaches, last | ⟨below, again, overflows⟩⟩ := exists_deciding context allowed
      · rw [serve_eq reaches last, Adapter.failed_iff] at failed
        refine .inr ⟨n, reaches, failed, last.imp_right fun ended => ?_⟩
        simpa [Again, failed] using ended
      · rw [serve_overflow reaches below again overflows] at failed
        obtain ⟨error, raised⟩ := failed
        exact nomatch raised
    · rintro (refused | ⟨n, reaches, fails, last⟩)
      · exact nomatch refused
      · rw [serve_eq reaches (last.imp_right fun fatal again => nomatch fatal.symm.trans again.2)]
        exact Adapter.failed_iff.mpr fails

/-- Every attempt the call makes fails as a failure should, with a delay that does not overflow where it
is retried, or delivers a body the adapter can take apart. -/
def Typed (upstream : Upstream) (context : AdapterContext) (provider : Provider) (sent : ChatRequest) : Prop :=
  ∀ n, upstream.Reaches provider sent n →
    (upstream.posted provider sent n).Fails ∧
      (n < upstream.maxRetries.toNat → (upstream.posted provider sent n).retryable = true →
        ¬ upstream.DelayOverflows provider sent n) ∨
    (upstream.posted provider sent n).Answers ((Adapter.ofName provider.name).WellShaped context)

/-- The calls that return a response or end in a `ProviderError`. -/
theorem serve_typed_iff :
    ((∃ response, upstream.serve context provider sent = .ok response) ∨
        ∃ error, upstream.serve context provider sent = .error (.provider error)) ↔
      upstream.Typed context provider sent := by
  constructor
  · intro typed n reaches
    by_cases fails : (upstream.posted provider sent n).Fails
    · refine .inl ⟨fails, fun below retryable overflows => ?_⟩
      rw [serve_overflow reaches below ⟨fails, retryable⟩ overflows] at typed
      rcases typed with ⟨_, other⟩ | ⟨_, other⟩ <;> exact nomatch other
    · rw [serve_eq reaches (.inr fun again => fails again.1), Adapter.answered_iff,
        Adapter.failed_iff] at typed
      exact .inr (typed.resolve_right fails)
  · intro typed
    rcases allowed : upstream.allowed (Adapter.ofName provider.name)
    · exact .inr ⟨_, serve_of_refused allowed⟩
    · obtain ⟨n, reaches, last | ⟨below, again, overflows⟩⟩ := exists_deciding context allowed
      · rw [serve_eq reaches last, Adapter.answered_iff, Adapter.failed_iff]
        exact (typed n reaches).symm.imp_right And.left
      · rcases typed n reaches with ⟨-, calm⟩ | answers
        · exact absurd overflows (calm below again.2)
        · obtain ⟨data, delivers, -⟩ := Posted.answers_iff.mp answers
          exact absurd again.1 delivers.not_fails

/-- Only the router raises `AllProvidersExhaustedError`. -/
theorem serve_ne_exhausted (errors : List (String × ProviderError)) :
    upstream.serve context provider sent ≠ .error (.exhausted errors) := by
  intro exhausted
  rcases allowed : upstream.allowed (Adapter.ofName provider.name)
  · exact nomatch (serve_of_refused allowed).symm.trans exhausted
  · obtain ⟨n, reaches, last | ⟨below, again, overflows⟩⟩ := exists_deciding context allowed
    · rw [serve_eq reaches last] at exhausted
      exact Adapter.completeImpl_ne_exhausted errors exhausted
    · exact nomatch (serve_overflow reaches below again overflows).symm.trans exhausted

end Upstream

namespace RoutingService

/-- The request is answered, or every attempt has been made and the exception lists their errors. -/
def FallsThrough (registry : ProviderRegistry) (settings : RoutingSettings) (request : ChatRequest)
    (outcome : Except Raised ChatResponse) : Prop :=
  (∃ response, outcome = .ok response) ∨
    ∃ attempts errors, resolveAttempts registry settings request = .ok attempts ∧
      outcome = .error (.exhausted errors) ∧
      errors.map Prod.fst = attempts.map fun attempt => attempt.1.name

/-- Whatever is made of an attempt after refused ones is typed. -/
def TypedReplies (registry : ProviderRegistry) (settings : RoutingSettings) (context : AdapterContext)
    (upstream : Upstream) (request : ChatRequest) : Prop :=
  ∀ failed rest provider model,
    resolveAttempts registry settings request = .ok (failed ++ (provider, model) :: rest) →
    (∀ attempt ∈ failed, upstream.Refuses attempt.1 (attemptRequest request attempt.2)) →
      upstream.Typed context provider (attemptRequest request model)

/-- Before the first element without a property there are only elements with it. -/
theorem eq_or_mem_of_split {α : Type} {holds : α → Prop} {first second after after' : List α} {x y : α}
    (same : first ++ x :: after = second ++ y :: after') (stops : ¬ holds x)
    (passes : ∀ z ∈ second, holds z) : y = x ∨ y ∈ first := by
  rcases List.append_eq_append_iff.mp same with ⟨front, rfl, cut⟩ | ⟨front, rfl, cut⟩
  · cases front with
    | nil => exact .inl (List.cons.inj cut).1.symm
    | cons head front =>
      obtain ⟨rfl, -⟩ := List.cons.inj cut
      exact absurd (passes x (List.mem_append_right _ (List.mem_cons_self ..))) stops
  · cases front with
    | nil => exact .inl (List.cons.inj cut).1
    | cons head front =>
      obtain ⟨rfl, -⟩ := List.cons.inj cut
      exact .inr (List.mem_append_right _ (List.mem_cons_self ..))

variable {registry : ProviderRegistry} {settings : RoutingSettings} {context : AdapterContext}
  {upstream : Upstream} {request : ChatRequest}

theorem allRefused_iff {attempts : List Attempt} :
    AllRefused (upstream.serve context) request attempts ↔
      ∀ attempt ∈ attempts, upstream.Refuses attempt.1 (attemptRequest request attempt.2) :=
  forall₂_congr fun _ _ => Upstream.serve_refused_iff

/-- Over resolved attempts, falling through is a matter of the replies. -/
theorem fallsThrough_iff_of_resolved {attempts : List Attempt}
    (resolved : resolveAttempts registry settings request = .ok attempts) :
    FallsThrough registry settings request (completeFrom (upstream.serve context) request [] attempts) ↔
      TypedReplies registry settings context upstream request := by
  rcases completeFrom_cases request (upstream.serve context) [] attempts with
    ⟨failed, rest, provider, model, rfl, refused, accepted, ended⟩ | ⟨refused, errors, ended, names⟩
  · rw [ended]
    constructor
    · rintro (answered | ⟨-, errors, -, exhausted, -⟩)
      · intro failed' rest' provider' model' resolved' refused'
        have same := Except.ok.inj (resolved.symm.trans resolved')
        rcases eq_or_mem_of_split same (mt Upstream.serve_refused_iff.mpr accepted) refused' with here | before
        · obtain ⟨rfl, rfl⟩ := Prod.mk.inj here
          exact Upstream.serve_typed_iff.mp (.inl answered)
        · exact Upstream.serve_typed_iff.mp (.inr (refused _ before))
      · exact absurd exhausted (Upstream.serve_ne_exhausted errors)
    · intro typed
      have here := typed failed rest provider model resolved (allRefused_iff.mp refused)
      exact .inl ((Upstream.serve_typed_iff.mpr here).resolve_right accepted)
  · refine iff_of_true (.inr ⟨attempts, errors, resolved, ended, names⟩) ?_
    intro failed rest provider model resolved' _
    obtain rfl := Except.ok.inj (resolved.symm.trans resolved')
    exact Upstream.serve_typed_iff.mp
      (.inr (refused (provider, model) (List.mem_append_right _ (List.mem_cons_self ..))))

/-- A request falls through exactly when its attempts resolve and every attempt made is typed. -/
theorem complete_fallsThrough_iff (openaiApiKey anthropicApiKey : Bool) (settings : RoutingSettings)
    (context : AdapterContext) (upstream : Upstream) (request : ChatRequest) :
    FallsThrough (.ofKeys openaiApiKey anthropicApiKey) settings request
        (complete (.ofKeys openaiApiKey anthropicApiKey) settings (upstream.serve context) request) ↔
      Resolvable (.ofKeys openaiApiKey anthropicApiKey) settings request ∧
        TypedReplies (.ofKeys openaiApiKey anthropicApiKey) settings context upstream request := by
  rw [← resolveAttempts_ok_iff, complete]
  rcases resolved : resolveAttempts
    (.ofKeys openaiApiKey anthropicApiKey) settings request with error | attempts
  · refine iff_of_false ?_ ?_
    · rintro (⟨response, answered⟩ | ⟨attempts, errors, other, -⟩)
      · cases answered
      · cases resolved.symm.trans other
    · rintro ⟨⟨_, other⟩, -⟩
      cases other
  · dsimp only
    rw [fallsThrough_iff_of_resolved resolved]
    exact (and_iff_right ⟨attempts, rfl⟩).symm

/-- `openai` answers 200 with an empty list of choices, `anthropic` answers well. -/
def emptyChoices : Upstream where
  post
    | .openai, _, _ => .reply { statusCode := 200, body := .ok (.obj [("choices", .arr [])]) }
    | .anthropic, _, _ =>
      .reply
        { statusCode := 200
          body := .ok (.obj [("content", .arr [.obj [("type", .str "text"), ("text", .str "Hello")]])]) }

def integerContext : AdapterContext where
  uuid := "uuid"
  now := 0
  intField
    | .int value => some value
    | _ => none
  intField_int _ := rfl

/-- An empty list of choices ends the request in an `IndexError`, and `anthropic` is not asked. -/
theorem complete_emptyChoices :
    (∃ response, emptyChoices.serve integerContext Adapter.anthropic.provider
      (attemptRequest gptRequest "claude-3-5-sonnet-20241022") = .ok response) ∧
    complete (.ofKeys true true) {} (emptyChoices.serve integerContext) gptRequest =
      .error (.shape .indexError) ∧
    ¬ FallsThrough (.ofKeys true true) {} gptRequest
      (complete (.ofKeys true true) {} (emptyChoices.serve integerContext) gptRequest) := by
  have escaped : complete (.ofKeys true true) {} (emptyChoices.serve integerContext) gptRequest =
      .error (.shape .indexError) := rfl
  refine ⟨⟨_, rfl⟩, escaped, ?_⟩
  rw [escaped]
  rintro (⟨_, answered⟩ | ⟨_, _, _, exhausted, _⟩)
  · exact nomatch answered
  · exact nomatch exhausted

end RoutingService

end LlmopsGateway
