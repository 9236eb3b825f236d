import Mathlib.Algebra.Order.Ring.Rat

/-! # The per-provider circuit breaker

`CircuitBreaker` counts consecutive failures. Its stored state is `closed` or `open`; half-open
is computed from the time the circuit opened. Each of `allow_request`, `record_success` and
`record_failure` holds the breaker's lock without awaiting anything inside, so it is one step
that reads one instant of the monotonic clock, in seconds.
-/

namespace LlmopsGateway

inductive CircuitState
  | closed
  | opened
  | halfOpen
deriving DecidableEq, Repr

/-- The constructor arguments; a threshold below one would open the circuit on nothing. -/
structure CircuitBreaker.Settings where
  failureThreshold : ℕ := 5
  cooldownSeconds : ℚ := 30
  threshold_pos : 0 < failureThreshold := by decide

structure CircuitBreaker where
  consecutiveFailures : ℕ := 0
  state : CircuitState := .closed
  openedAt : Option ℚ := none
deriving DecidableEq, Repr

namespace CircuitBreaker

variable (settings : Settings)

/-- `_effective_state`, which is also the public `state` property. -/
def effectiveState (breaker : CircuitBreaker) (now : ℚ) : CircuitState :=
  match breaker.state, breaker.openedAt with
  | .opened, some openedAt =>
    if settings.cooldownSeconds ≤ now - openedAt then .halfOpen else .opened
  | state, _ => state

def allowRequest (breaker : CircuitBreaker) (now : ℚ) : Bool :=
  breaker.effectiveState settings now != .opened

def recordSuccess (_breaker : CircuitBreaker) : CircuitBreaker where
  consecutiveFailures := 0
  state := .closed
  openedAt := none

def recordFailure (breaker : CircuitBreaker) (now : ℚ) : CircuitBreaker :=
  let breaker := { breaker with consecutiveFailures := breaker.consecutiveFailures + 1 }
  if breaker.effectiveState settings now = .halfOpen then
    -- a failed probe reopens the circuit with a fresh cooldown
    { breaker with state := .opened, openedAt := some now }
  else if settings.failureThreshold ≤ breaker.consecutiveFailures then
    { breaker with state := .opened, openedAt := some now }
  else breaker

inductive Operation
  | recordSuccess
  | recordFailure
  | allowRequest
deriving DecidableEq, Repr

/-- An operation and the instant it reads. -/
structure Event where
  operation : Operation
  instant : ℚ
deriving DecidableEq, Repr

/-- The breaker after an operation; `allow_request` only answers. -/
def apply (breaker : CircuitBreaker) (event : Event) : CircuitBreaker :=
  match event.operation with
  | .recordSuccess => breaker.recordSuccess
  | .recordFailure => breaker.recordFailure settings event.instant
  | .allowRequest => breaker

end CircuitBreaker

end LlmopsGateway
