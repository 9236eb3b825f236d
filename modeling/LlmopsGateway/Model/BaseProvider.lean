import LlmopsGateway.Model.CircuitBreaker
import Mathlib.Logic.Function.Basic

/-! # Overlapping calls on one provider

`BaseLLMProvider.complete` and `stream` share one circuit breaker. The machine interleaves any
number of such calls. Between two suspensions of the event loop a call takes one step: the
`allow_request` check together with the start of the first attempt, the end of an attempt
together with its `record_success` or `record_failure`, and the start of each further attempt
once its backoff sleep is over. The clock is the monotonic clock in seconds.
-/

namespace LlmopsGateway.BaseLLMProvider

structure Settings where
  maxRetries : ℤ := 3
  circuit : CircuitBreaker.Settings := {}

/-- The two entry points, which share the retry loop. -/
inductive Kind
  | complete
  | stream
deriving DecidableEq, Repr

/-- What the retry loop reads of a `ProviderError`. -/
structure Failure where
  retryable : Bool := true
  retryAfterSeconds : Option ℚ := none
deriving DecidableEq, Repr

def backoffBaseSeconds : ℚ := 1 / 2
def backoffMaxSeconds : ℚ := 20
def backoffJitterSeconds : ℚ := 1 / 2

/-- From attempt 1024 on `2**attempt` does not fit a float, and `base_seconds * (2**attempt)` raises
`OverflowError` before the cap applies; a given `Retry-After` avoids the product. -/
def backoffOverflows (attempt : ℕ) (retryAfterSeconds : Option ℚ) : Bool :=
  retryAfterSeconds.isNone && 1024 ≤ attempt

/-- `compute_backoff_delay`, with `none` for its `OverflowError`; `jitter` is the draw of
`random.uniform(0, jitter_seconds)`. -/
def computeBackoffDelay (attempt : ℕ) (retryAfterSeconds : Option ℚ) (jitter : ℚ) : Option ℚ :=
  if backoffOverflows attempt retryAfterSeconds then none
  else
    match retryAfterSeconds with
    | some seconds => some (max 0 seconds)
    | none => some (min backoffMaxSeconds (backoffBaseSeconds * 2 ^ attempt) + jitter)

/-- A call that has not arrived, is inside `_complete_impl` or `_stream_impl`, sleeps before its
next attempt, or has ended: with a result, a `ProviderError`, `ProviderUnavailableError`, or by
another exception, a cancellation or an abandoned stream. -/
inductive Call
  | idle
  | attempting (kind : Kind) (attempt : ℕ) (yieldedAny : Bool)
  | sleeping (kind : Kind) (attempt : ℕ) (wake : ℚ)
  | succeeded
  | failed
  | unavailable
  | escaped
deriving DecidableEq, Repr

/-- `failures` (since the last success, latest first), `probes` (calls admitted half-open whose
outcome is not yet recorded) and `implStarts` are history, which no step reads. -/
structure State where
  clock : ℚ := 0
  circuit : CircuitBreaker := {}
  calls : ℕ → Call := fun _ => .idle
  failures : List ℚ := []
  probes : List ℕ := []
  implStarts : ℕ := 0

inductive Label
  | tick (seconds : ℚ)
  | arrive (id : ℕ) (kind : Kind)
  | yieldChunk (id : ℕ)
  | succeed (id : ℕ)
  | fail (id : ℕ) (failure : Failure) (jitter : ℚ)
  | retry (id : ℕ)
  | escape (id : ℕ)
deriving DecidableEq, Repr

namespace State

def goto (state : State) (id : ℕ) (next : Call) : State :=
  { state with calls := Function.update state.calls id next }

/-- Invoke `_complete_impl` or `_stream_impl`. -/
def startImpl (state : State) (id : ℕ) (kind : Kind) (attempt : ℕ) : State :=
  { state with implStarts := state.implStarts + 1 }.goto id (.attempting kind attempt false)

def recordSuccess (state : State) (id : ℕ) : State :=
  { state with
    circuit := state.circuit.recordSuccess
    failures := []
    probes := state.probes.filter (· ≠ id) }

def recordFailure (settings : Settings) (state : State) (id : ℕ) : State :=
  { state with
    circuit := state.circuit.recordFailure settings.circuit state.clock
    failures := state.clock :: state.failures
    probes := state.probes.filter (· ≠ id) }

/-- The effective state of the breaker at this instant. -/
def circuitState (settings : Settings) (state : State) : CircuitState :=
  state.circuit.effectiveState settings.circuit state.clock

end State

/-- The head of `complete` and `stream`. -/
def enter (settings : Settings) (state : State) (id : ℕ) (kind : Kind) : State :=
  if state.circuit.allowRequest settings.circuit state.clock then
    { state with
      probes := if state.circuitState settings = CircuitState.halfOpen then id :: state.probes else state.probes
    }.startImpl id kind 0
  else state.goto id .unavailable

/-- The `except ProviderError` block. A stream that has yielded is not restarted. -/
def handleFailure (settings : Settings) (state : State) (id : ℕ) (kind : Kind) (attempt : ℕ)
    (yieldedAny : Bool) (failure : Failure) (jitter : ℚ) : State :=
  if yieldedAny = true ∨ failure.retryable = false ∨ settings.maxRetries ≤ attempt then
    (state.recordFailure settings id).goto id .failed
  else
    match computeBackoffDelay attempt failure.retryAfterSeconds jitter with
    | none => (state.recordFailure settings id).goto id .escaped
    | some delay =>
      (state.recordFailure settings id).goto id (.sleeping kind attempt (state.clock + delay))

def step (settings : Settings) (state : State) : Label → Option State
  | .tick seconds => if 0 ≤ seconds then some { state with clock := state.clock + seconds } else none
  | .arrive id kind =>
    match state.calls id with
    | .idle => some (enter settings state id kind)
    | _ => none
  | .yieldChunk id =>
    match state.calls id with
    | .attempting .stream attempt _ => some (state.goto id (.attempting .stream attempt true))
    | _ => none
  | .succeed id =>
    match state.calls id with
    | .attempting .. => some ((state.recordSuccess id).goto id .succeeded)
    | _ => none
  | .fail id failure jitter =>
    match state.calls id with
    | .attempting kind attempt yieldedAny =>
      if 0 ≤ jitter ∧ jitter ≤ backoffJitterSeconds then
        some (handleFailure settings state id kind attempt yieldedAny failure jitter)
      else none
    | _ => none
  | .retry id =>
    match state.calls id with
    | .sleeping kind attempt wake =>
      if wake ≤ state.clock then some (state.startImpl id kind (attempt + 1)) else none
    | _ => none
  | .escape id =>
    match state.calls id with
    | .attempting .. => some (state.goto id .escaped)
    | .sleeping .. => some (state.goto id .escaped)
    | _ => none

end LlmopsGateway.BaseLLMProvider
