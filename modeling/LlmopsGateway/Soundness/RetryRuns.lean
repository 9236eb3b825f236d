import LlmopsGateway.Model.RetryLoop

/-! # How the retry loop runs

The loop makes an upstream call after every failure it tries again, as long as a retry is left and
no backoff delay overflows. So there is a call it reaches and ends with: that call is not tried
again, or it is the last one, or the delay after it overflows.
-/

namespace LlmopsGateway.BaseLLMProvider

open Machine

variable {κ α : Type} {name : String} {call : ℕ → Logged Raised (UpstreamEvent κ) α} {retries attempt n : ℕ}

/-- A typed failure before any output that the loop may try again. -/
def Retried (played : Logged Raised (UpstreamEvent κ) α) : Prop :=
  ∃ error, played.outcome = .error (.provider error) ∧ error.retryable = true ∧
    UpstreamEvent.yieldedAny played.events = false

/-- The backoff after this call raises `OverflowError`. -/
def Overflows (call : ℕ → Logged Raised (UpstreamEvent κ) α) (n : ℕ) : Prop :=
  ∃ error, (call n).outcome = .error (.provider error) ∧ backoffOverflows n error.retryAfterSeconds = true

/-- The loop, entered at `attempt`, makes the `n`-th call from there. -/
structure Reaches (call : ℕ → Logged Raised (UpstreamEvent κ) α) (retries attempt n : ℕ) : Prop where
  within : n ≤ retries
  earlier : ∀ k < n, Retried (call (attempt + k)) ∧ ¬ Overflows call (attempt + k)

/-- The log of `n` calls from `attempt` on, each with its record in the breaker. -/
def settledLog (name : String) (call : ℕ → Logged Raised (UpstreamEvent κ) α) (attempt n : ℕ) :
    List (UpstreamEvent κ) :=
  (List.range' attempt n).flatMap fun k => (settled name (call k)).events

@[simp] theorem settledLog_zero : settledLog name call attempt 0 = [] := rfl

theorem settledLog_succ : settledLog name call attempt (n + 1) =
    (settled name (call attempt)).events ++ settledLog name call (attempt + 1) n := by
  rw [settledLog, List.range'_succ, List.flatMap_cons, settledLog]

/-- The record does not change how a call ends. -/
@[simp] theorem settled_outcome (played : Logged Raised (UpstreamEvent κ) α) :
    (settled name played).outcome = played.outcome := by
  obtain ⟨events, outcome⟩ := played
  match outcome with
  | .ok _ => rfl
  | .error (.provider _) => rfl
  | .error (.exhausted _) => rfl
  | .error (.value _) => rfl
  | .error (.shape _) => rfl
  | .error .overflow => rfl
  | .error .library => rfl

theorem retryLoop_of_not_retried (ended : ¬ Retried (call attempt)) :
    retryLoop name call retries attempt = settled name (call attempt) := by
  cases retries with
  | zero => rfl
  | succ retries =>
    refine Logged.recover_of_reraised fun error raised => ?_
    rw [settled_outcome] at raised
    match error with
    | .provider error =>
      have stops : (UpstreamEvent.yieldedAny (call attempt).events || !error.retryable) = true := by
        by_contra goes
        simp only [Bool.or_eq_true, Bool.not_eq_true', not_or, Bool.not_eq_true, Bool.not_eq_false] at goes
        exact ended ⟨error, raised, goes.2, goes.1⟩
      exact if_pos stops
    | .exhausted _ => rfl
    | .value _ => rfl
    | .shape _ => rfl
    | .overflow => rfl
    | .library => rfl

/-- A failure that is tried again costs its log, and then the delay overflows or the loop goes on. -/
theorem retryLoop_of_retried (name : String) (retries : ℕ) (retried : Retried (call attempt)) :
    (Overflows call attempt ∧ retryLoop name call (retries + 1) attempt =
        ⟨(settled name (call attempt)).events, .error .overflow⟩) ∨
      (¬ Overflows call attempt ∧ retryLoop name call (retries + 1) attempt =
        ⟨(settled name (call attempt)).events ++ (retryLoop name call retries (attempt + 1)).events,
          (retryLoop name call retries (attempt + 1)).outcome⟩) := by
  obtain ⟨error, raised, retryable, quiet⟩ := retried
  have goes : (UpstreamEvent.yieldedAny (call attempt).events || !error.retryable) = false := by
    simp [quiet, retryable]
  have looped : retryLoop name call (retries + 1) attempt =
      if backoffOverflows attempt error.retryAfterSeconds then
        ⟨(settled name (call attempt)).events, .error .overflow⟩
      else ⟨(settled name (call attempt)).events ++ (retryLoop name call retries (attempt + 1)).events,
        (retryLoop name call retries (attempt + 1)).outcome⟩ := by
    rw [retryLoop, Logged.recover, settled_outcome, raised]
    simp only [goes, Bool.false_eq_true, if_false]
    split <;> simp [Logged.raise]
  by_cases overflows : backoffOverflows attempt error.retryAfterSeconds = true
  · exact .inl ⟨⟨error, raised, overflows⟩, by rw [looped, if_pos overflows]⟩
  · refine .inr ⟨?_, by rw [looped, if_neg overflows]⟩
    rintro ⟨other, raised', overflows'⟩
    obtain rfl := Raised.provider.inj (Except.error.inj (raised.symm.trans raised'))
    exact overflows overflows'

theorem Reaches.of_succ (reaches : Reaches call (retries + 1) attempt (n + 1)) :
    Retried (call attempt) ∧ ¬ Overflows call attempt ∧ Reaches call retries (attempt + 1) n := by
  have within := reaches.within
  refine ⟨(reaches.earlier 0 (by omega)).1, (reaches.earlier 0 (by omega)).2, by omega, fun k below => ?_⟩
  rw [show attempt + 1 + k = attempt + (k + 1) by omega]
  exact reaches.earlier (k + 1) (by omega)

/-- A loop that reaches a call goes on as the loop entered there. -/
theorem Reaches.retryLoop_eq (reaches : Reaches call retries attempt n) :
    retryLoop name call retries attempt =
      ⟨settledLog name call attempt n ++ (retryLoop name call (retries - n) (attempt + n)).events,
        (retryLoop name call (retries - n) (attempt + n)).outcome⟩ := by
  induction n generalizing retries attempt with
  | zero => rfl
  | succ n ih =>
    obtain ⟨m, rfl⟩ : ∃ m, retries = m + 1 := ⟨retries - 1, by have := reaches.within; omega⟩
    obtain ⟨retried, calm, rest⟩ := reaches.of_succ
    rcases retryLoop_of_retried name m retried with ⟨overflows, -⟩ | ⟨-, looped⟩
    · exact absurd overflows calm
    · rw [looped, ih rest, settledLog_succ, List.append_assoc, Nat.add_sub_add_right,
        show attempt + 1 + n = attempt + (n + 1) by omega]

theorem settledLog_last : settledLog name call attempt n ++ (settled name (call (attempt + n))).events =
    settledLog name call attempt (n + 1) := by
  simp [settledLog, List.range'_concat]

/-- The loop ends with a call it reaches and does not try again. -/
theorem Reaches.ended (reaches : Reaches call retries attempt n)
    (last : n = retries ∨ ¬ Retried (call (attempt + n))) :
    retryLoop name call retries attempt =
      ⟨settledLog name call attempt (n + 1), (call (attempt + n)).outcome⟩ := by
  have settledEq : retryLoop name call (retries - n) (attempt + n) = settled name (call (attempt + n)) := by
    rcases last with rfl | ended
    · rw [Nat.sub_self]
      rfl
    · exact retryLoop_of_not_retried ended
  rw [reaches.retryLoop_eq, settledEq, settledLog_last, settled_outcome]

/-- The loop ends in `OverflowError` after a call it would try again, when the delay overflows. -/
theorem Reaches.overflowed (reaches : Reaches call retries attempt n) (below : n < retries)
    (retried : Retried (call (attempt + n))) (overflows : Overflows call (attempt + n)) :
    retryLoop name call retries attempt =
      ⟨settledLog name call attempt (n + 1), .error .overflow⟩ := by
  obtain ⟨m, more⟩ : ∃ m, retries - n = m + 1 := ⟨retries - n - 1, by omega⟩
  rw [reaches.retryLoop_eq, more]
  rcases retryLoop_of_retried name m retried with ⟨-, looped⟩ | ⟨calm, -⟩
  · rw [looped, settledLog_last]
  · exact absurd overflows calm

/-- One of the two happens. -/
theorem exists_reaches (call : ℕ → Logged Raised (UpstreamEvent κ) α) (retries attempt : ℕ) :
    ∃ n, Reaches call retries attempt n ∧ ((n = retries ∨ ¬ Retried (call (attempt + n))) ∨
      n < retries ∧ Retried (call (attempt + n)) ∧ Overflows call (attempt + n)) := by
  induction retries with
  | zero => exact ⟨0, ⟨Nat.le_refl _, nofun⟩, .inl (.inl rfl)⟩
  | succ retries ih =>
    obtain ⟨n, ⟨within, earlier⟩, last⟩ := ih
    have reaches : Reaches call (retries + 1) attempt n := ⟨by omega, earlier⟩
    by_cases retried : Retried (call (attempt + n))
    · by_cases overflows : Overflows call (attempt + n)
      · exact ⟨n, reaches, .inr ⟨by omega, retried, overflows⟩⟩
      · obtain rfl : n = retries := by
          rcases last with (full | ended) | ⟨-, -, wild⟩
          · exact full
          · exact absurd retried ended
          · exact absurd wild overflows
        refine ⟨n + 1, ⟨Nat.le_refl _, fun k below => ?_⟩, .inl (.inl rfl)⟩
        rcases Nat.lt_succ_iff_lt_or_eq.mp below with less | rfl
        · exact earlier k less
        · exact ⟨retried, overflows⟩
    · exact ⟨n, reaches, .inl (.inr retried)⟩

end LlmopsGateway.BaseLLMProvider
