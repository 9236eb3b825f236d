import LlmopsGateway.Math.TakeThrough
import LlmopsGateway.Soundness.RetryRuns

/-! # The upstream calls a provider is good for

Completions and streams differ only in which outcomes count as a failure that leaves no output. An
admitted provider is called until there is an outcome of another kind, an error that is not retryable,
or no retry left. A backoff delay that overflows cuts this short.
-/

namespace LlmopsGateway

open Machine BaseLLMProvider

/-- The error of an upstream call that failed without output. -/
class UpstreamOutcome (ω : Type) where
  silentError : ω → Option ProviderError

open UpstreamOutcome

instance : UpstreamOutcome (Except ProviderError ChatResponse) where
  silentError
    | .ok _ => none
    | .error error => some error

instance : UpstreamOutcome Played where
  silentError played :=
    match played.chunks, played.ending with
    | [], .error error => some error
    | _, _ => none

@[simp] theorem silentError_ok (response : ChatResponse) :
    silentError (.ok response : Except ProviderError ChatResponse) = none := rfl

@[simp] theorem silentError_error (error : ProviderError) :
    silentError (.error error : Except ProviderError ChatResponse) = some error := rfl

namespace Leg

variable {ω κ α : Type} [UpstreamOutcome ω] {leg : Leg ω} {legs rest : List (Leg ω)} {n : ℕ}

/-- An outcome after which its provider is not called again. -/
def final (outcome : ω) : Bool :=
  match silentError outcome with
  | some error => !error.retryable
  | none => true

/-- The upstream calls of a provider: the outcomes up to a final one or the end of the budget. -/
def calls (leg : Leg ω) : List ℕ :=
  if leg.allowed then takeThrough (fun n => final (leg.yields n)) (List.range (leg.maxRetries + 1)) else []

/-- Every upstream call of the provider fails without output. -/
def Fails (leg : Leg ω) : Prop := ∀ n ∈ leg.calls, silentError (leg.yields n) ≠ none

/-- The error a provider that fails leaves. -/
def lastError (leg : Leg ω) : ProviderError :=
  match leg.calls.getLast?.bind fun n => silentError (leg.yields n) with
  | some error => error
  | none => .unavailable leg.provider.name

/-- A retry is left after 1024 retries or more, every one after a retryable silentError, and the last of
these failures carries no `Retry-After`. -/
def DelayOverflows (leg : Leg ω) : Prop :=
  leg.allowed = true ∧ ∃ n < leg.maxRetries, 1024 ≤ n ∧ (∀ k < n, final (leg.yields k) = false) ∧
    ∃ error, silentError (leg.yields n) = some error ∧ error.retryable = true ∧ error.retryAfterSeconds = none

/-- No delay overflows at a provider that is tried: one after providers that fail. -/
def DelaysFit (legs : List (Leg ω)) : Prop :=
  ∀ before leg after, legs = before ++ leg :: after → (∀ other ∈ before, other.Fails) → ¬ leg.DelayOverflows

theorem final_eq_false_iff {outcome : ω} :
    final outcome = false ↔ ∃ error, silentError outcome = some error ∧ error.retryable = true := by
  rw [final]
  cases failed : silentError outcome <;> simp

/-- The calls of an admitted provider, given the last of them. -/
theorem calls_eq (allowed : leg.allowed = true) (within : n ≤ leg.maxRetries)
    (again : ∀ k < n, final (leg.yields k) = false)
    (last : n = leg.maxRetries ∨ final (leg.yields n) = true) : leg.calls = List.range (n + 1) := by
  rw [calls, if_pos allowed, List.range_eq_range', List.range_eq_range']
  apply takeThrough_range' within
  · simpa only [Nat.zero_add] using again
  · simpa only [Nat.zero_add] using last

theorem calls_of_refused (refused : leg.allowed = false) : leg.calls = [] := by
  rw [calls, refused]
  rfl

theorem delaysFit_nil : DelaysFit ([] : List (Leg ω)) := by
  intro before leg after parts
  simp at parts

theorem delaysFit_cons : DelaysFit (leg :: rest) ↔ ¬ leg.DelayOverflows ∧ (leg.Fails → DelaysFit rest) := by
  constructor
  · intro fit
    refine ⟨fit [] leg rest rfl nofun, fun fails before other after parts quiet => ?_⟩
    apply fit (leg :: before) other after
    · rw [parts, List.cons_append]
    · exact List.forall_mem_cons.mpr ⟨fails, quiet⟩
  · rintro ⟨here, later⟩ before other after parts quiet
    cases before with
    | nil =>
      obtain ⟨rfl, -⟩ := List.cons.inj parts
      exact here
    | cons first before =>
      obtain ⟨rfl, rfl⟩ := List.cons.inj parts
      obtain ⟨fails, quiet⟩ := List.forall_mem_cons.mp quiet
      exact later fails before other after rfl quiet

/-- The last call of a provider that fails is the one its error comes from. -/
theorem lastError_eq {error : ProviderError} (calls : leg.calls = List.range (n + 1))
    (failed : silentError (leg.yields n) = some error) : leg.lastError = error := by
  simp [lastError, calls, List.range_succ, failed]

theorem fails_iff (calls : leg.calls = List.range (n + 1)) (again : ∀ k < n, final (leg.yields k) = false) :
    leg.Fails ↔ silentError (leg.yields n) ≠ none := by
  constructor
  · intro fails
    exact fails n (by simp [calls])
  · intro failed k member
    rw [calls, List.mem_range] at member
    rcases Nat.lt_succ_iff_lt_or_eq.mp member with less | rfl
    · obtain ⟨error, some, -⟩ := final_eq_false_iff.mp (again k less)
      simp [some]
    · exact failed

/-- The retry loop of an admitted provider ends with its last call unless a delay overflows. The two
readings say that the loop sees the failures without output. -/
theorem retryLoop_cases {name : String} {call : ℕ → Logged Raised (UpstreamEvent κ) α}
    (allowed : leg.allowed = true)
    (retried : ∀ n, Retried (call n) ↔ final (leg.yields n) = false)
    (overflows : ∀ n error, silentError (leg.yields n) = some error →
      (Overflows call n ↔ backoffOverflows n error.retryAfterSeconds = true)) :
    (leg.DelayOverflows ∧ ∃ n, (∀ k ≤ n, final (leg.yields k) = false) ∧
        retryLoop name call leg.maxRetries 0 = ⟨settledLog name call 0 (n + 1), .error .overflow⟩) ∨
      ¬ leg.DelayOverflows ∧ ∃ n, leg.calls = List.range (n + 1) ∧ (∀ k < n, final (leg.yields k) = false) ∧
        retryLoop name call leg.maxRetries 0 = ⟨settledLog name call 0 (n + 1), (call n).outcome⟩ := by
  obtain ⟨n, reaches, ends⟩ := exists_reaches call leg.maxRetries 0
  have within := reaches.within
  have earlier := reaches.earlier
  simp only [Nat.zero_add, retried] at earlier ends
  have again : ∀ k < n, final (leg.yields k) = false := fun k below => (earlier k below).1
  rcases ends with last | ⟨below, more, wild⟩
  · have stops : n = leg.maxRetries ∨ final (leg.yields n) = true :=
      last.imp_right fun ended => Bool.not_eq_false _ ▸ ended
    refine .inr ⟨?_, n, calls_eq allowed within again stops, again, ?_⟩
    · -- a wild call would come before the last one, and the loop has passed it
      rintro ⟨-, m, below, large, again', error, failed, retryable, unset⟩
      have more : final (leg.yields m) = false := final_eq_false_iff.mpr ⟨error, failed, retryable⟩
      have before : m < n := by
        by_contra notBefore
        rcases stops with rfl | stops
        · exact notBefore below
        · rcases Nat.lt_or_eq_of_le (Nat.le_of_not_lt notBefore) with less | rfl
          · exact absurd (again' n less) (by simp [stops])
          · exact absurd more (by simp [stops])
      apply (earlier m before).2
      rw [overflows m error failed]
      simp [backoffOverflows, unset, large]
    · rw [reaches.ended (by simpa only [Nat.zero_add, retried] using last), Nat.zero_add]
  · obtain ⟨error, failed, retryable⟩ := final_eq_false_iff.mp more
    have overflowing := (overflows n error failed).mp wild
    simp only [backoffOverflows, Bool.and_eq_true, Option.isNone_iff_eq_none, decide_eq_true_eq] at overflowing
    refine .inl ⟨⟨allowed, n, below, overflowing.2, again, error, failed, retryable, overflowing.1⟩, n, ?_, ?_⟩
    · intro k upTo
      rcases Nat.lt_or_eq_of_le upTo with less | rfl
      · exact again k less
      · exact more
    · rw [reaches.overflowed below (by simpa only [Nat.zero_add, retried] using more)
        (by simpa only [Nat.zero_add] using wild)]

end Leg

end LlmopsGateway
