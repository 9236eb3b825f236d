import LlmopsGateway.Model.CircuitBreaker
import Mathlib.Tactic.Common

/-! # What the circuit breaker knows of its failures

The effective state is a function of the failures recorded since the last success: how many
there are, and how old the latest one is. The relation below between a breaker and such a
history is established by every operation, so a machine that carries the history along can
reason about it instead of the three stored fields.
-/

namespace LlmopsGateway.CircuitBreaker

variable (settings : Settings)

/-- The failures recorded since the last success are at or over the threshold and the latest of
them, the head of the list, is younger than the cooldown. -/
def Tripped (failures : List ℚ) (now : ℚ) : Prop :=
  settings.failureThreshold ≤ failures.length ∧
    ∀ latest ∈ failures.head?, now - latest < settings.cooldownSeconds

instance (failures : List ℚ) (now : ℚ) : Decidable (Tripped settings failures now) :=
  inferInstanceAs (Decidable (_ ∧ ∀ latest ∈ failures.head?, _))

/-- The breaker stores no more of a failure history than its length and its latest entry. -/
structure Records (breaker : CircuitBreaker) (failures : List ℚ) : Prop where
  count : breaker.consecutiveFailures = failures.length
  below : failures.length < settings.failureThreshold → breaker.state = .closed
  reached : settings.failureThreshold ≤ failures.length →
    breaker.state = .opened ∧ breaker.openedAt = failures.head?

variable {settings} {breaker : CircuitBreaker} {failures : List ℚ} {now : ℚ}

theorem records_initial : Records settings {} [] where
  count := rfl
  below _ := rfl
  reached atLeast := absurd atLeast (Nat.not_le_of_lt settings.threshold_pos)

theorem records_recordSuccess (breaker : CircuitBreaker) : Records settings breaker.recordSuccess [] where
  count := rfl
  below _ := rfl
  reached atLeast := absurd atLeast (Nat.not_le_of_lt settings.threshold_pos)

theorem Records.effectiveState_of_below (records : Records settings breaker failures)
    (below : failures.length < settings.failureThreshold) :
    breaker.effectiveState settings now = .closed := by
  simp only [effectiveState, records.below below]

theorem Records.effectiveState_of_reached (records : Records settings breaker failures)
    (reached : settings.failureThreshold ≤ failures.length) :
    breaker.effectiveState settings now = if Tripped settings failures now then .opened else .halfOpen := by
  obtain ⟨state, openedAt⟩ := records.reached reached
  cases failures with
  | nil => exact absurd reached (Nat.not_le_of_lt settings.threshold_pos)
  | cons latest earlier =>
    have tripped : Tripped settings (latest :: earlier) now ↔ now - latest < settings.cooldownSeconds := by
      simp only [Tripped, reached, true_and, List.head?_cons, Option.mem_some_iff, forall_eq']
    simp only [effectiveState, state, openedAt, List.head?_cons, tripped, ← not_le, ite_not]

/-- The breaker rejects exactly while its failure history is tripped. -/
theorem Records.effectiveState_eq_opened_iff (records : Records settings breaker failures) :
    breaker.effectiveState settings now = .opened ↔ Tripped settings failures now := by
  by_cases below : failures.length < settings.failureThreshold
  · rw [records.effectiveState_of_below below]
    exact iff_of_false (by decide) fun tripped => Nat.not_le_of_lt below tripped.1
  · rw [records.effectiveState_of_reached (Nat.le_of_not_lt below)]
    by_cases tripped : Tripped settings failures now <;> simp [tripped]

/-- What a failure at or over the threshold leaves behind. -/
theorem opened_records {count : ℕ} (counted : count = (now :: failures).length)
    (reached : settings.failureThreshold ≤ (now :: failures).length) :
    Records settings ⟨count, .opened, some now⟩ (now :: failures) where
  count := counted
  below under := absurd reached (Nat.not_le_of_lt under)
  reached _ := ⟨rfl, rfl⟩

/-- The two branches of `record_failure` that open the circuit are one: a circuit that counts as half-open
has a count at or over the threshold. -/
theorem Records.recordFailure_eq (records : Records settings breaker failures) (now : ℚ) :
    breaker.recordFailure settings now =
      if settings.failureThreshold ≤ breaker.consecutiveFailures + 1 then
        ⟨breaker.consecutiveFailures + 1, .opened, some now⟩
      else { breaker with consecutiveFailures := breaker.consecutiveFailures + 1 } := by
  by_cases below : failures.length < settings.failureThreshold
  · have closed : ({ breaker with consecutiveFailures := breaker.consecutiveFailures + 1 }
        : CircuitBreaker).effectiveState settings now = .closed := by
      simp only [effectiveState, records.below below]
    simp only [CircuitBreaker.recordFailure, closed, reduceCtorEq, if_false]
  · have reached : settings.failureThreshold ≤ breaker.consecutiveFailures + 1 := by
      rw [records.count]
      omega
    simp only [CircuitBreaker.recordFailure, if_pos reached, ite_self]

/-- Below the threshold a failure is only counted; from then on each one reopens the circuit. -/
theorem Records.recordFailure (records : Records settings breaker failures) (now : ℚ) :
    Records settings (breaker.recordFailure settings now) (now :: failures) := by
  have counted : breaker.consecutiveFailures + 1 = (now :: failures).length := by
    rw [records.count, List.length_cons]
  rw [records.recordFailure_eq now]
  split
  · rename_i reached
    exact opened_records counted (counted ▸ reached)
  · rename_i below
    have under : failures.length < settings.failureThreshold := by
      rw [counted, List.length_cons] at below
      omega
    exact ⟨counted, fun _ => records.below under, fun again => absurd again (counted ▸ below)⟩

section replay

def noteFailure (failures : List ℚ) (event : Event) : List ℚ :=
  match event.operation with
  | .recordSuccess => []
  | .recordFailure => event.instant :: failures
  | .allowRequest => failures

theorem Records.apply (records : Records settings breaker failures) (event : Event) :
    Records settings (breaker.apply settings event) (noteFailure failures event) := by
  obtain ⟨operation, instant⟩ := event
  cases operation with
  | recordSuccess => exact records_recordSuccess breaker
  | recordFailure => exact records.recordFailure instant
  | allowRequest => exact records

theorem Records.foldl (records : Records settings breaker failures) (events : List Event) :
    Records settings (events.foldl (CircuitBreaker.apply settings) breaker)
      (events.foldl noteFailure failures) := by
  induction events generalizing breaker failures with
  | nil => exact records
  | cons event rest ih => exact ih (records.apply event)

theorem head?_of_reached (reached : settings.failureThreshold ≤ failures.length) :
    ∃ latest, failures.head? = some latest := by
  cases failures with
  | nil => exact absurd reached (Nat.not_le_of_lt settings.threshold_pos)
  | cons latest earlier => exact ⟨latest, rfl⟩

/-- The effective state at any instant, from the failures since the last success. -/
theorem Records.effectiveState_iff (records : Records settings breaker failures) (now : ℚ) :
    (breaker.effectiveState settings now = .closed ↔ failures.length < settings.failureThreshold) ∧
      (breaker.effectiveState settings now = .opened ↔ settings.failureThreshold ≤ failures.length ∧
        ∃ latest ∈ failures.head?, now - latest < settings.cooldownSeconds) ∧
      (breaker.effectiveState settings now = .halfOpen ↔ settings.failureThreshold ≤ failures.length ∧
        ∃ latest ∈ failures.head?, settings.cooldownSeconds ≤ now - latest) := by
  by_cases below : failures.length < settings.failureThreshold
  · rw [records.effectiveState_of_below below]
    have unreached : ¬ settings.failureThreshold ≤ failures.length := Nat.not_le_of_lt below
    simp [below, unreached]
  · have reached := Nat.le_of_not_lt below
    obtain ⟨latest, head⟩ := head?_of_reached reached
    rw [records.effectiveState_of_reached reached]
    by_cases young : now - latest < settings.cooldownSeconds
    · have tripped : Tripped settings failures now := ⟨reached, by simp [head, young]⟩
      simp [tripped, below, reached, head, young]
    · have calm : ¬ Tripped settings failures now := fun tripped => young (tripped.2 latest head)
      simp [calm, below, reached, head, not_lt.mp young, young]

end replay

end LlmopsGateway.CircuitBreaker
