import LlmopsGateway.Model.RetryLoop
import LlmopsGateway.Soundness.ProviderCircuit
import Mathlib.Data.List.Induction

/-! # What client errors do to a provider

A refused request is recorded in the breaker like any other failure. On a provider whose upstream only
ever answers or refuses a request as the client's mistake, the circuit stays closed exactly as long as
fewer than the threshold of these refusals come in a row.
-/

namespace LlmopsGateway.BaseLLMProvider

open Machine CircuitBreaker

/-- An HTTP status that puts the mistake with the client; a 429 is a `ProviderRateLimitedError`. -/
structure ClientStatus where
  code : ℕ
  client : 400 ≤ code ∧ code ≤ 499 ∧ code ≠ 429 := by decide

/-- What the retry loop reads of an error. -/
def Failure.ofError (error : ProviderError) : Failure := ⟨error.retryable, error.retryAfterSeconds⟩

/-- The labels of a run in which an upstream call fails only with a client error. -/
inductive ClientLabel
  | tick (seconds : ℚ)
  | arrive (id : ℕ) (kind : Kind)
  | yieldChunk (id : ℕ)
  | succeed (id : ℕ)
  | refused (id : ℕ) (status : ClientStatus) (message : String)
  | retry (id : ℕ)
  | escape (id : ℕ)

namespace ClientLabel

def label : ClientLabel → Label
  | tick seconds => .tick seconds
  | arrive id kind => .arrive id kind
  | yieldChunk id => .yieldChunk id
  | succeed id => .succeed id
  | refused id status message => .fail id (.ofError (.response message status.code)) 0
  | retry id => .retry id
  | escape id => .escape id

def tally (count : ℕ) : ClientLabel → ℕ
  | succeed _ => 0
  | refused .. => count + 1
  | _ => count

end ClientLabel

/-- The client errors since the last success. -/
def errorsInARow (labels : List ClientLabel) : ℕ := labels.foldl ClientLabel.tally 0

variable {settings : Settings} {state next : State}

/-- Only a success and a failure change the history. -/
def failuresAfter (state : State) : Label → List ℚ
  | .succeed _ => []
  | .fail .. => state.clock :: state.failures
  | _ => state.failures

theorem failures_step {label : Label} (stepped : step settings state label = some next) :
    next.failures = failuresAfter state label := by
  cases moves_of_step stepped with
  | tick | refused | admitted | yielded | succeeded | failed | retried | escaped => rfl

theorem length_failuresAfter (state : State) (label : ClientLabel) :
    (failuresAfter state label.label).length = label.tally state.failures.length := by
  cases label with
  | succeed | refused | tick | arrive | yieldChunk | retry | escape => rfl

/-- The breaker knows of the client errors since the last success. -/
theorem run_recorded {labels : List ClientLabel}
    (ran : run? (step settings) {} (labels.map ClientLabel.label) = some state) :
    Recorded settings state ∧ state.failures.length = errorsInARow labels := by
  induction labels using List.reverseRecOn generalizing state with
  | nil =>
    obtain rfl := Option.some.inj ran
    exact ⟨records_initial, rfl⟩
  | append_singleton labels label ih =>
    rw [List.map_append, List.map_singleton, run?_concat_iff] at ran
    obtain ⟨before, ran, stepped⟩ := ran
    obtain ⟨recorded, counted⟩ := ih ran
    refine ⟨recorded.step stepped, ?_⟩
    rw [failures_step stepped, length_failuresAfter, counted, errorsInARow, errorsInARow, List.foldl_append]
    rfl

theorem Recorded.closed_iff (recorded : Recorded settings state) :
    state.circuitState settings = .closed ↔ state.failures.length < settings.circuit.failureThreshold :=
  (Records.effectiveState_iff recorded state.clock).1

/-- No call has been turned away at the entry. -/
def State.NeverUnavailable (state : State) : Prop := ∀ id, state.calls id ≠ .unavailable

theorem State.NeverUnavailable.goto (never : state.NeverUnavailable) (id : ℕ) {phase : Call}
    (admitted : phase ≠ .unavailable) : (state.goto id phase).NeverUnavailable :=
  (Function.forall_update_iff state.calls fun _ call => call ≠ .unavailable).mpr
    ⟨admitted, fun other _ => never other⟩

/-- Calls are turned away only on an open circuit. -/
theorem State.NeverUnavailable.step (never : state.NeverUnavailable)
    (allowed : state.circuitState settings ≠ .opened)
    {label : Label} (stepped : step settings state label = some next) : next.NeverUnavailable := by
  cases moves_of_step stepped with
  | tick seconds => exact never
  | refused id kind opened => exact absurd opened allowed
  | failed id failure jitter phase tried => exact never.goto id tried
  | admitted id | yielded id | succeeded id | retried id | escaped id => exact never.goto id nofun

/-- After these labels and at every point before, the circuit is closed and no call has been turned away. -/
def NeverTakenAway (settings : Settings) (labels : List ClientLabel) : Prop :=
  ∀ before, before <+: labels → ∀ state,
    run? (step settings) {} (before.map ClientLabel.label) = some state →
      state.circuitState settings = .closed ∧ state.NeverUnavailable

/-- Client errors come in shorter rows than the threshold. -/
def RowsBelow (settings : Settings) (labels : List ClientLabel) : Prop :=
  ∀ before, before <+: labels → errorsInARow before < settings.circuit.failureThreshold

theorem neverUnavailable_of_rowsBelow {labels : List ClientLabel} (rows : RowsBelow settings labels)
    (ran : run? (step settings) {} (labels.map ClientLabel.label) = some state) : state.NeverUnavailable := by
  induction labels using List.reverseRecOn generalizing state with
  | nil =>
    obtain rfl := Option.some.inj ran
    exact nofun
  | append_singleton labels label ih =>
    rw [List.map_append, List.map_singleton, run?_concat_iff] at ran
    obtain ⟨before, ran, stepped⟩ := ran
    have shorter : labels <+: labels ++ [label] := List.prefix_append ..
    have never := ih (fun other early => rows other (early.trans shorter)) ran
    obtain ⟨recorded, counted⟩ := run_recorded ran
    have closed := recorded.closed_iff.mpr (counted ▸ rows labels shorter)
    exact never.step (closed ▸ nofun) stepped

/-- In every run of calls whose upstream fails only with client errors: the circuit never leaves its closed
state, and so turns nobody away, exactly as long as there are never as many of them in a row as the
threshold. -/
theorem run_neverTakenAway_iff (settings : Settings) (labels : List ClientLabel) (final : State)
    (ran : run? (step settings) {} (labels.map ClientLabel.label) = some final) :
    NeverTakenAway settings labels ↔ RowsBelow settings labels := by
  constructor
  · intro never before early
    obtain ⟨rest, rfl⟩ := early
    rw [List.map_append, run?_append_iff] at ran
    obtain ⟨state, ran, -⟩ := ran
    obtain ⟨recorded, counted⟩ := run_recorded ran
    exact counted ▸ recorded.closed_iff.mp (never before (List.prefix_append ..) state ran).1
  · intro rows before early state ran
    obtain ⟨recorded, counted⟩ := run_recorded ran
    exact ⟨recorded.closed_iff.mpr (counted ▸ rows before early),
      neverUnavailable_of_rowsBelow (fun other earlier => rows other (earlier.trans early)) ran⟩

/-- A client whose requests are all bad. -/
def badRequests : List ClientLabel :=
  (List.range 5).flatMap fun id => [.arrive id .complete, .refused id { code := 400 } "bad request"]

/-- A success in between. -/
def mixedRequests : List ClientLabel :=
  badRequests.take 8 ++ [.arrive 4 .stream, .succeed 4, .arrive 5 .complete]

theorem mixedRequests_rows : ∃ final, run? (step {}) {} (mixedRequests.map ClientLabel.label) = some final ∧
    (NeverTakenAway {} mixedRequests ↔ RowsBelow {} mixedRequests) := by
  have enabled : (run? (step {}) {} (mixedRequests.map ClientLabel.label)).isSome = true := by decide +kernel
  obtain ⟨final, ran⟩ := Option.isSome_iff_exists.mp enabled
  exact ⟨final, ran, run_neverTakenAway_iff {} mixedRequests final ran⟩

/-- Another client's call after five bad requests. -/
def turnedAway : List ClientLabel := badRequests ++ [.arrive 5 .complete]

theorem turnedAway_unavailable : ∃ final, run? (step {}) {} (turnedAway.map ClientLabel.label) = some final ∧
    final.calls 5 = .unavailable ∧ ¬ NeverTakenAway {} turnedAway := by
  have refused : (run? (step {}) {} (turnedAway.map ClientLabel.label)).map (fun final => final.calls 5) =
      some .unavailable := by decide +kernel
  obtain ⟨final, ran, refused⟩ := Option.map_eq_some_iff.mp refused
  exact ⟨final, ran, refused, fun never => (never turnedAway (List.prefix_refl _) final ran).2 5 refused⟩

end LlmopsGateway.BaseLLMProvider
