import LlmopsGateway.Model.Routing

/-! # The attempt that serves a request

Both loops of `RoutingService` pass over the attempts that raise a `ProviderError` (in a stream:
before any output) and end with the first that does not.
-/

namespace LlmopsGateway.RoutingService

variable {registry : ProviderRegistry} {settings : RoutingSettings} {request : ChatRequest}
  {serve : Provider → ChatRequest → Except Raised ChatResponse}
  {script : Provider → ChatRequest → StreamScript}

/-- Each of the attempts raises a `ProviderError`. -/
def AllRefused (serve : Provider → ChatRequest → Except Raised ChatResponse) (request : ChatRequest)
    (attempts : List Attempt) : Prop :=
  ∀ attempt ∈ attempts, ∃ error,
    serve attempt.1 (attemptRequest request attempt.2) = .error (.provider error)

/-- Each of the attempts raises a `ProviderError` before its first chunk. -/
def AllSilent (script : Provider → ChatRequest → StreamScript) (request : ChatRequest)
    (attempts : List Attempt) : Prop :=
  ∀ attempt ∈ attempts, ∃ error,
    script attempt.1 (attemptRequest request attempt.2) = ⟨[], some (.provider error)⟩

theorem completeFrom_append {failed : List Attempt} (refused : AllRefused serve request failed)
    (errors : List (String × ProviderError)) (rest : List Attempt) :
    ∃ later, completeFrom serve request errors (failed ++ rest) =
      completeFrom serve request later rest := by
  induction failed generalizing errors with
  | nil => exact ⟨errors, rfl⟩
  | cons attempt failed ih =>
    obtain ⟨error, raised⟩ := refused attempt (List.mem_cons_self ..)
    obtain ⟨later, ended⟩ :=
      ih (fun other member => refused other (List.mem_cons_of_mem _ member))
        (errors ++ [(attempt.1.name, error)])
    refine ⟨later, ?_⟩
    simp only [List.cons_append, completeFrom, raised, ended]

theorem streamFrom_append {failed : List Attempt} (silent : AllSilent script request failed)
    (errors : List (String × ProviderError)) (rest : List Attempt) :
    ∃ later, streamFrom script request errors (failed ++ rest) =
      streamFrom script request later rest := by
  induction failed generalizing errors with
  | nil => exact ⟨errors, rfl⟩
  | cons attempt failed ih =>
    obtain ⟨error, raised⟩ := silent attempt (List.mem_cons_self ..)
    obtain ⟨later, ended⟩ :=
      ih (fun other member => silent other (List.mem_cons_of_mem _ member))
        (errors ++ [(attempt.1.name, error)])
    refine ⟨later, ?_⟩
    simp only [List.cons_append, streamFrom, raised, if_true, ended]

variable (serve request) in
/-- The non-streaming loop ends with the first attempt that is not refused, or after all of them. -/
theorem completeFrom_cases (errors : List (String × ProviderError)) (attempts : List Attempt) :
    (∃ failed rest provider model, attempts = failed ++ (provider, model) :: rest ∧
      AllRefused serve request failed ∧
      (¬ ∃ error, serve provider (attemptRequest request model) = .error (.provider error)) ∧
      completeFrom serve request errors attempts = serve provider (attemptRequest request model)) ∨
    AllRefused serve request attempts ∧ ∃ later,
      completeFrom serve request errors attempts = .error (.exhausted (errors ++ later)) ∧
      later.map Prod.fst = attempts.map fun attempt => attempt.1.name := by
  induction attempts generalizing errors with
  | nil => exact .inr ⟨nofun, [], by rw [completeFrom, List.append_nil], rfl⟩
  | cons attempt rest ih =>
    obtain ⟨provider, model⟩ := attempt
    by_cases refused : ∃ error, serve provider (attemptRequest request model) = .error (.provider error)
    · obtain ⟨error, raised⟩ := refused
      have next : completeFrom serve request errors ((provider, model) :: rest) =
          completeFrom serve request (errors ++ [(provider.name, error)]) rest := by
        simp only [completeFrom, raised]
      have refuses {attempts : List Attempt} (others : AllRefused serve request attempts) :
          AllRefused serve request ((provider, model) :: attempts) := by
        intro attempt member
        rcases List.mem_cons.mp member with rfl | member
        · exact ⟨error, raised⟩
        · exact others attempt member
      rcases ih (errors ++ [(provider.name, error)]) with ended | ⟨others, later, ended, names⟩
      · obtain ⟨failed, tail, other, name, rfl, others, answered, ended⟩ := ended
        exact .inl ⟨(provider, model) :: failed, tail, other, name, rfl, refuses others, answered,
          next.trans ended⟩
      · refine .inr ⟨refuses others, (provider.name, error) :: later, ?_, ?_⟩
        · rw [next, ended, List.append_assoc, List.singleton_append]
        · simp [names]
    · refine .inl ⟨[], rest, provider, model, rfl, nofun, refused, ?_⟩
      unfold completeFrom
      split <;> simp_all

/-- The non-streaming loop returns the first answer. -/
theorem complete_of_served {failed rest : List Attempt} {provider : Provider} {model : String}
    {response : ChatResponse}
    (resolved : resolveAttempts registry settings request = .ok (failed ++ (provider, model) :: rest))
    (refused : AllRefused serve request failed)
    (served : serve provider (attemptRequest request model) = .ok response) :
    complete registry settings serve request = .ok response := by
  obtain ⟨later, ended⟩ := completeFrom_append refused [] ((provider, model) :: rest)
  rw [complete, resolved]
  dsimp only
  rw [ended, completeFrom, served]

/-- The run of a stream that one attempt serves. -/
def servedRun (provider : Provider) (sent : ChatRequest) (chunks : List String) : StreamRun :=
  { chunks
    selection := selected provider sent chunks
    served := some (provider, sent)
    outcome := .ok () }

/-- An attempt serves the stream: those before it fail silently, and it delivers its chunks. -/
def Streams (registry : ProviderRegistry) (settings : RoutingSettings)
    (script : Provider → ChatRequest → StreamScript) (request : ChatRequest)
    (provider : Provider) (model : String) (chunks : List String) : Prop :=
  ∃ failed rest, resolveAttempts registry settings request = .ok (failed ++ (provider, model) :: rest) ∧
    AllSilent script request failed ∧
    script provider (attemptRequest request model) = ⟨chunks, none⟩

theorem Streams.stream_eq {provider : Provider} {model : String} {chunks : List String}
    (streams : Streams registry settings script request provider model chunks) :
    stream registry settings script request =
      servedRun provider (attemptRequest request model) chunks := by
  obtain ⟨failed, rest, resolved, silent, served⟩ := streams
  obtain ⟨later, ended⟩ := streamFrom_append silent [] ((provider, model) :: rest)
  rw [stream, resolved]
  dsimp only
  rw [ended]
  simp only [streamFrom, served, servedRun]

/-- At most one attempt serves a stream. -/
theorem Streams.unique {provider provider' : Provider} {model model' : String} {chunks chunks' : List String}
    (streams : Streams registry settings script request provider model chunks)
    (streams' : Streams registry settings script request provider' model' chunks') :
    provider = provider' ∧ model = model' ∧ chunks = chunks' := by
  have same := streams.stream_eq.symm.trans streams'.stream_eq
  have served := congrArg StreamRun.served same
  obtain ⟨providers, sent⟩ := Prod.mk.inj (Option.some.inj served)
  refine ⟨providers, ?_, congrArg StreamRun.chunks same⟩
  simpa using congrArg ChatRequest.model sent

/-- A stream is served by one of the attempts, or it ends in an exception and nothing served it. -/
theorem streamFrom_cases (errors : List (String × ProviderError)) (attempts : List Attempt) :
    (∃ failed rest provider model chunks, attempts = failed ++ (provider, model) :: rest ∧
      AllSilent script request failed ∧
      script provider (attemptRequest request model) = ⟨chunks, none⟩) ∨
    (streamFrom script request errors attempts).served = none ∧
      ∃ error, (streamFrom script request errors attempts).outcome = .error error := by
  induction attempts generalizing errors with
  | nil => exact .inr ⟨rfl, _, rfl⟩
  | cons attempt rest ih =>
    obtain ⟨provider, model⟩ := attempt
    rcases played : script provider (attemptRequest request model) with ⟨chunks, raised⟩
    match raised with
    | none => exact .inl ⟨[], rest, provider, model, chunks, rfl, nofun, played⟩
    | some (.provider error) =>
      match chunks with
      | [] =>
        rcases ih (errors ++ [(provider.name, error)]) with served | failed
        · obtain ⟨failed, later, other, name, chunks, rfl, silent, served⟩ := served
          refine .inl ⟨(provider, model) :: failed, later, other, name, chunks, rfl, ?_, served⟩
          intro attempt member
          rcases List.mem_cons.mp member with rfl | member
          · exact ⟨error, played⟩
          · exact silent attempt member
        · right
          simpa only [streamFrom, played, if_true] using failed
      | chunk :: chunks => exact .inr (by simp [streamFrom, played])
    | some (.exhausted _) => exact .inr (by simp [streamFrom, played])
    | some (.value _) => exact .inr (by simp [streamFrom, played])
    | some (.shape _) => exact .inr (by simp [streamFrom, played])
    | some .overflow => exact .inr (by simp [streamFrom, played])
    | some .library => exact .inr (by simp [streamFrom, played])

theorem stream_cases (registry : ProviderRegistry) (settings : RoutingSettings)
    (script : Provider → ChatRequest → StreamScript) (request : ChatRequest) :
    (∃ provider model chunks, Streams registry settings script request provider model chunks) ∨
    (stream registry settings script request).served = none ∧
      ∃ error, (stream registry settings script request).outcome = .error error := by
  rcases resolved : resolveAttempts registry settings request with error | attempts
  · exact .inr (by simp [stream, resolved])
  · rcases streamFrom_cases [] attempts with served | failed
    · obtain ⟨failed, rest, provider, model, chunks, rfl, silent, served⟩ := served
      exact .inl ⟨provider, model, chunks, failed, rest, resolved, silent, served⟩
    · right
      simpa only [stream, resolved] using failed

end LlmopsGateway.RoutingService
