import Mathlib.Data.Nat.Notation
import Mathlib.Logic.Function.Basic

/-! # Request coalescing in the non-streaming handler

Identical requests of one tenant share one exact-cache key, hence one lock key. The machine
interleaves any number of such `handle_chat_completion` calls with the cache and lock steps of
`CacheService`: the exact and the semantic lookup, `SET NX EX`, the poll loop of
`wait_for_coalesced_result`, `RoutingService.complete`, the `DELETE` of the `finally` block and
the backfill task. Time is counted in milliseconds.

The lock value is the constant `"1"`. The owner in `LockEntry` is history: it records whose
`SET` created the entry, and no step reads it.
-/

namespace LlmopsGateway.Coalescing

/-- The `CacheService` durations; the lock TTL is `int(ttl_seconds)` whole seconds, and Redis
refuses an `EX` of zero. -/
structure Settings where
  lockTtlSeconds : ℕ := 10
  waitMs : ℕ := 2000
  pollIntervalMs : ℕ := 50
  lockTtl_pos : 0 < lockTtlSeconds := by decide

def Settings.lockTtlMs (settings : Settings) : ℕ := 1000 * settings.lockTtlSeconds

theorem Settings.lockTtlMs_pos (settings : Settings) : 0 < settings.lockTtlMs :=
  Nat.mul_pos (by decide) settings.lockTtl_pos

structure LockEntry where
  deadline : ℕ
  owner : ℕ
deriving DecidableEq, Repr

/-- How a Redis command ends for its caller: answered, or with a `RedisError` before or after
it took effect on the server. -/
inductive Reply
  | ok
  | lost
  | unanswered
deriving DecidableEq, Repr

def Reply.applied : Reply → Bool
  | .ok | .unanswered => true
  | .lost => false

/-- Where a call stands: its next step. `writeBack` is the fire-and-forget L1 write of a
semantic hit, `backfill` the task scheduled after a fresh upstream response. -/
inductive Call (ρ : Type)
  | idle
  | exactGet
  | semanticGet
  | acquire
  | waiting (deadline wake : ℕ)
  | calling (won : Bool)
  | releasing (result : Option ρ)
  | backfill (response : ρ)
  | writeBack (response : ρ)
  | done
deriving DecidableEq, Repr

/-- Redis, the clock and the calls. `acquiredAt` (when a call's `SET` created the entry),
`released` (calls whose `DELETE` took effect) and `releases` are history. -/
structure State (ρ : Type) where
  clock : ℕ := 0
  exact : Option ρ := none
  lock : Option LockEntry := none
  calls : ℕ → Call ρ := fun _ => .idle
  upstreamCalls : ℕ := 0
  acquiredAt : ℕ → Option ℕ := fun _ => none
  released : ℕ → Bool := fun _ => false
  releases : ℕ := 0

/-- All calls are still to arrive; the exact cache may already hold an entry. -/
def State.initial {ρ : Type} (exact : Option ρ) : State ρ := { exact }

/-- Every label of a call names the step it takes and what the outside world answers. -/
inductive Label (ρ : Type)
  | tick (ms : ℕ)
  | expireExact
  | arrive (id : ℕ)
  | exactGet (id : ℕ) (answered : Bool)
  | semanticGet (id : ℕ) (found : Option ρ)
  | acquire (id : ℕ) (reply : Reply)
  | poll (id : ℕ) (answered : Bool)
  | complete (id : ℕ) (result : Option ρ)
  | release (id : ℕ) (reply : Reply)
  | store (id : ℕ) (answered : Bool)
deriving DecidableEq, Repr

variable {ρ : Type}

namespace State

def goto (state : State ρ) (id : ℕ) (next : Call ρ) : State ρ :=
  { state with calls := Function.update state.calls id next }

section goto

variable (state : State ρ) (id : ℕ) (next : Call ρ)

@[simp] theorem goto_clock : (state.goto id next).clock = state.clock := rfl
@[simp] theorem goto_exact : (state.goto id next).exact = state.exact := rfl
@[simp] theorem goto_lock : (state.goto id next).lock = state.lock := rfl
@[simp] theorem goto_upstreamCalls : (state.goto id next).upstreamCalls = state.upstreamCalls := rfl
@[simp] theorem goto_acquiredAt : (state.goto id next).acquiredAt = state.acquiredAt := rfl
@[simp] theorem goto_released : (state.goto id next).released = state.released := rfl
@[simp] theorem goto_releases : (state.goto id next).releases = state.releases := rfl

@[simp] theorem goto_calls_self : (state.goto id next).calls id = next :=
  Function.update_self ..

theorem goto_calls_of_ne {other : ℕ} (different : other ≠ id) :
    (state.goto id next).calls other = state.calls other :=
  Function.update_of_ne different ..

end goto

/-- Time passes; a lock whose deadline is reached is gone. -/
def tick (state : State ρ) (ms : ℕ) : State ρ :=
  { state with
    clock := state.clock + ms
    lock := state.lock.filter fun entry => state.clock + ms < entry.deadline }

/-- `SET key "1" NX EX ttl`, whose effect is to create the entry if there is none. -/
def setNx (settings : Settings) (state : State ρ) (id : ℕ) : State ρ :=
  match state.lock with
  | some _ => state
  | none =>
    { state with
      lock := some ⟨state.clock + settings.lockTtlMs, id⟩
      acquiredAt := Function.update state.acquiredAt id (some state.clock) }

/-- `DELETE key`, whoever created the entry. -/
def delete (state : State ρ) (id : ℕ) : State ρ :=
  { state with
    lock := none
    released := Function.update state.released id true
    releases := state.releases + 1 }

/-- Invoke `RoutingService.complete`. -/
def call (state : State ρ) (id : ℕ) (won : Bool) : State ρ :=
  { state with upstreamCalls := state.upstreamCalls + 1 }.goto id (.calling won)

/-- `RedisExactCache.get`: an unanswered `GET` is a miss. -/
def get (state : State ρ) (answered : Bool) : Option ρ :=
  if answered then state.exact else none

def put (state : State ρ) (answered : Bool) (response : ρ) : State ρ :=
  if answered then { state with exact := some response } else state

end State

/-- The loop head of `wait_for_coalesced_result`: sleep for another poll, or give up and call. -/
def sleepOrCall (settings : Settings) (state : State ρ) (id deadline : ℕ) : State ρ :=
  if state.clock < deadline then
    state.goto id (.waiting deadline (state.clock + settings.pollIntervalMs))
  else state.call id false

/-- `acquire_coalescing_lock`: a `RedisError` fails open, a taken lock makes the caller wait. -/
def acquireLock (settings : Settings) (state : State ρ) (id : ℕ) : Reply → State ρ
  | .lost => state.call id true
  | .unanswered => (state.setNx settings id).call id true
  | .ok =>
    match state.lock with
    | none => (state.setNx settings id).call id true
    | some _ => sleepOrCall settings state id (state.clock + settings.waitMs)

/-- What follows the upstream call, or the release after it. -/
def finish (state : State ρ) (id : ℕ) : Option ρ → State ρ
  | some response => state.goto id (.backfill response)
  | none => state.goto id .done

def step (settings : Settings) (state : State ρ) : Label ρ → Option (State ρ)
  | .tick ms => some (state.tick ms)
  | .expireExact => some { state with exact := none }
  | .arrive id =>
    match state.calls id with
    | .idle => some (state.goto id .exactGet)
    | _ => none
  | .exactGet id answered =>
    match state.calls id with
    | .exactGet => some (state.goto id (if (state.get answered).isSome then .done else .semanticGet))
    | _ => none
  | .semanticGet id found =>
    match state.calls id with
    | .semanticGet =>
      some (state.goto id (match found with
        | some response => .writeBack response
        | none => .acquire))
    | _ => none
  | .acquire id reply =>
    match state.calls id with
    | .acquire => some (acquireLock settings state id reply)
    | _ => none
  | .poll id answered =>
    match state.calls id with
    | .waiting deadline wake =>
      if state.clock < wake then none
      else if (state.get answered).isSome then some (state.goto id .done)
      else some (sleepOrCall settings state id deadline)
    | _ => none
  | .complete id result =>
    match state.calls id with
    -- the `finally` block releases only what `won_lock` says was won
    | .calling true => some (state.goto id (.releasing result))
    | .calling false => some (finish state id result)
    | _ => none
  | .release id reply =>
    match state.calls id with
    | .releasing result =>
      some (finish (if reply.applied then state.delete id else state) id result)
    | _ => none
  | .store id answered =>
    match state.calls id with
    | .backfill response => some ((state.put answered response).goto id .done)
    | .writeBack response => some ((state.put answered response).goto id .done)
    | _ => none

end LlmopsGateway.Coalescing
