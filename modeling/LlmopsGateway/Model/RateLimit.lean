import Mathlib.Data.Rat.Floor
import Mathlib.Logic.Function.Basic

/-! # The Redis token bucket of `RateLimitService`

`check_and_increment` and `_consume_token` as a machine that interleaves any number of calls for
one tenant, one Redis command per step. Amounts are exact rationals and the clock counts
milliseconds. A call reads the clock once, before its first command, and keeps that reading
through its retries. `WATCH` remembers the version of the key, every change of the key (a write,
a `PEXPIRE`, an expiry) moves the version, and `EXEC` fails exactly when it has moved.

The denial path writes the bucket with a plain `HSET` after `UNWATCH`, followed by a separate
`PEXPIRE`, as `_persist_bucket` does.
-/

namespace LlmopsGateway.RateLimit

/-- The service's settings that decide whether, and with which limit, a call is metered. -/
structure RateLimitService where
  defaultLimitPerMinute : ℤ
  enabled : Bool := true
  failOpen : Bool := false
deriving DecidableEq, Repr

/-- `limit_per_minute or default`; `none` where `check_and_increment` returns without a check. -/
def RateLimitService.limit? (service : RateLimitService) (limitPerMinute : Option ℤ) : Option ℕ :=
  let limit := match limitPerMinute with
    | some requested => if requested = 0 then service.defaultLimitPerMinute else requested
    | none => service.defaultLimitPerMinute
  if !service.enabled || limit ≤ 0 then none else some limit.toNat

/-- The hash fields `tokens` and `last_refill_ms`; the code only ever writes them together. -/
structure Bucket where
  tokens : ℚ
  lastRefillMs : ℕ
deriving DecidableEq, Repr

def capacity (limit : ℕ) : ℚ := limit

def refillRate (limit : ℕ) : ℚ := limit / 60

/-- The tokens a call computes from what `HMGET` returned; a missing field means a full bucket. -/
def refilled (limit nowMs : ℕ) (raw : Option Bucket) : ℚ :=
  let tokens := (raw.map Bucket.tokens).getD (capacity limit)
  let lastRefillMs := (raw.map Bucket.lastRefillMs).getD nowMs
  let elapsedSec := max 0 (((nowMs : ℚ) - lastRefillMs) / 1000)
  min (capacity limit) (tokens + elapsedSec * refillRate limit)

def ttlMs (limit : ℕ) : ℕ := max ⌊capacity limit / refillRate limit * 2000⌋.toNat 1000

/-- `RateLimitExceededError` is raised with a wait of at least a millisecond. -/
def retryAfterSeconds (retryAfter : ℚ) : ℚ := max retryAfter (1 / 1000)

/-- The tenant's key between two calls: the hash, and the deadline of the `PEXPIRE` that follows each of
its writes. -/
structure StoredBucket extends Bucket where
  expiresAt : ℕ
deriving DecidableEq, Repr

/-- What is left of a key at an instant. -/
def live (nowMs : ℕ) (stored : Option StoredBucket) : Option StoredBucket :=
  stored.filter fun stored => nowMs < stored.expiresAt

/-- `_consume_token` with no other call in between: the key it leaves, and how long a denied call has
to wait. -/
def consumeToken (limit : ℕ) (cost : ℚ) (nowMs : ℕ) (stored : Option StoredBucket) : StoredBucket × Option ℚ :=
  let tokens := refilled limit nowMs ((live nowMs stored).map (·.toBucket))
  let expiresAt := nowMs + ttlMs limit
  if tokens < cost then
    ({ tokens, lastRefillMs := nowMs, expiresAt }, some ((cost - tokens) / refillRate limit))
  else ({ tokens := tokens - cost, lastRefillMs := nowMs, expiresAt }, none)

/-- `check_and_increment` with no other call in between; the error is a `RateLimitExceededError` with its
wait in seconds. -/
def checkAndIncrement (service : RateLimitService) (limitPerMinute : Option ℤ) (cost : ℚ) (nowMs : ℕ)
    (stored : Option StoredBucket) : Except ℚ Unit × Option StoredBucket :=
  match service.limit? limitPerMinute with
  | none => (.ok (), stored)
  | some limit =>
    match consumeToken limit cost nowMs stored with
    | (written, none) => (.ok (), some written)
    | (written, some retryAfter) => (.error (retryAfterSeconds retryAfter), some written)

section floats

/-! The same in the arithmetic of floats, where `round` is what an operation makes of its exact result and a
conversion of an integer. What is kept as text reads back as it was. -/

variable (round : ℚ → ℚ)

def refillRateFloat (limit : ℕ) : ℚ := round (round limit / 60)

def refilledFloat (limit nowMs : ℕ) (raw : Option Bucket) : ℚ :=
  let capacity := round limit
  let tokens := (raw.map Bucket.tokens).getD capacity
  let lastRefillMs := (raw.map Bucket.lastRefillMs).getD nowMs
  let elapsedSec := max 0 (round (round ((nowMs : ℚ) - lastRefillMs) / 1000))
  min capacity (round (tokens + round (elapsedSec * refillRateFloat round limit)))

def ttlMsFloat (limit : ℕ) : ℕ :=
  max ⌊round (round (round limit / refillRateFloat round limit) * 2000)⌋.toNat 1000

def consumeTokenFloat (limit : ℕ) (cost : ℚ) (nowMs : ℕ) (stored : Option StoredBucket) :
    StoredBucket × Option ℚ :=
  let tokens := refilledFloat round limit nowMs ((live nowMs stored).map (·.toBucket))
  let expiresAt := nowMs + ttlMsFloat round limit
  if tokens < cost then
    ({ tokens, lastRefillMs := nowMs, expiresAt },
      some (round (round (cost - tokens) / refillRateFloat round limit)))
  else ({ tokens := round (tokens - cost), lastRefillMs := nowMs, expiresAt }, none)

def checkAndIncrementFloat (service : RateLimitService) (limitPerMinute : Option ℤ) (cost : ℚ) (nowMs : ℕ)
    (stored : Option StoredBucket) : Except ℚ Unit × Option StoredBucket :=
  match service.limit? limitPerMinute with
  | none => (.ok (), stored)
  | some limit =>
    match consumeTokenFloat round limit cost nowMs stored with
    | (written, none) => (.ok (), some written)
    | (written, some retryAfter) => (.error (max retryAfter (round (1 / 1000))), some written)

/-- Without rounding. -/
theorem checkAndIncrementFloat_id : checkAndIncrementFloat id = checkAndIncrement := rfl

end floats

/-- Where a call stands: its next Redis command, with the local variables it still needs. -/
inductive Call
  | idle
  | watch (nowMs tries : ℕ)
  | hmget (nowMs tries version : ℕ)
  | exec (nowMs tries version : ℕ) (tokens : ℚ)
  | unwatch (nowMs : ℕ) (tokens : ℚ)
  | hset (nowMs : ℕ) (tokens : ℚ)
  | pexpire (retryAfter : ℚ)
  | admitted
  | exceeded (retryAfterSeconds : ℚ)
deriving DecidableEq, Repr

/-- History of a call's `HMGET`: what it saw, when that had been written, and how many calls
had been admitted. No step reads it. -/
structure Observation where
  raw : Option Bucket := none
  writtenAt : ℕ := 0
  admissions : ℕ := 0
deriving DecidableEq, Repr

/-- The tenant's key in Redis, the shared clock and every call. `writtenAt`, `admissions` (the
instants of successful `EXEC`s, newest first) and `observed` are history: no step reads them. -/
structure State where
  clock : ℕ := 0
  bucket : Option Bucket := none
  expiresAt : Option ℕ := none
  version : ℕ := 0
  calls : ℕ → Call := fun _ => .idle
  writtenAt : ℕ := 0
  admissions : List ℕ := []
  observed : ℕ → Observation := fun _ => {}

inductive Label
  | tick (ms : ℕ)
  | call (id : ℕ)
deriving DecidableEq, Repr

namespace State

def goto (state : State) (id : ℕ) (next : Call) : State :=
  { state with calls := Function.update state.calls id next }

/-- Time passes; a key whose deadline is reached is gone, and that changes it for `WATCH`. -/
def tick (state : State) (ms : ℕ) : State :=
  if state.expiresAt.any (· ≤ state.clock + ms) then
    { state with
      clock := state.clock + ms, bucket := none, expiresAt := none, version := state.version + 1 }
  else { state with clock := state.clock + ms }

/-- `HSET` keeps the deadline of an existing key. -/
def hset (state : State) (bucket : Bucket) : State :=
  { state with bucket := some bucket, version := state.version + 1, writtenAt := state.clock }

/-- `PEXPIRE` has no effect on a missing key. -/
def pexpire (state : State) (ms : ℕ) : State :=
  if state.bucket.isSome then
    { state with expiresAt := some (state.clock + ms), version := state.version + 1 }
  else state

def observe (state : State) (id : ℕ) : State :=
  { state with
    observed := Function.update state.observed id
      ⟨state.bucket, state.writtenAt, state.admissions.length⟩ }

def recordAdmission (state : State) : State :=
  { state with admissions := state.clock :: state.admissions }

section goto

variable (state : State) (id : ℕ) (next : Call)

@[simp] theorem goto_clock : (state.goto id next).clock = state.clock := rfl
@[simp] theorem goto_bucket : (state.goto id next).bucket = state.bucket := rfl
@[simp] theorem goto_expiresAt : (state.goto id next).expiresAt = state.expiresAt := rfl
@[simp] theorem goto_version : (state.goto id next).version = state.version := rfl
@[simp] theorem goto_writtenAt : (state.goto id next).writtenAt = state.writtenAt := rfl
@[simp] theorem goto_admissions : (state.goto id next).admissions = state.admissions := rfl
@[simp] theorem goto_observed : (state.goto id next).observed = state.observed := rfl

@[simp] theorem goto_calls_self : (state.goto id next).calls id = next :=
  Function.update_self ..

theorem goto_calls_of_ne {other : ℕ} (different : other ≠ id) :
    (state.goto id next).calls other = state.calls other :=
  Function.update_of_ne different ..

end goto

end State

/-- Advance one call by one Redis command. -/
def advance (limit : ℕ) (cost : ℚ) (state : State) (id : ℕ) : Option State :=
  match state.calls id with
  | .idle => some (state.goto id (.watch state.clock 0))
  | .watch nowMs tries => some (state.goto id (.hmget nowMs tries state.version))
  | .hmget nowMs tries version =>
      let tokens := refilled limit nowMs state.bucket
      some ((state.observe id).goto id
        (if tokens < cost then .unwatch nowMs tokens else .exec nowMs tries version tokens))
  | .exec nowMs tries version tokens =>
      if version = state.version then
        let written := (state.hset ⟨tokens - cost, nowMs⟩).pexpire (ttlMs limit)
        some (written.recordAdmission.goto id .admitted)
      -- `WatchError`: the next of at most five rounds keeps the same `now_ms`
      else if tries + 1 < 5 then some (state.goto id (.watch nowMs (tries + 1)))
      else some (state.goto id (.exceeded (retryAfterSeconds (1 / refillRate limit))))
  | .unwatch nowMs tokens => some (state.goto id (.hset nowMs tokens))
  | .hset nowMs tokens =>
      some ((state.hset ⟨tokens, nowMs⟩).goto id (.pexpire ((cost - tokens) / refillRate limit)))
  | .pexpire retryAfter =>
      some ((state.pexpire (ttlMs limit)).goto id (.exceeded (retryAfterSeconds retryAfter)))
  | .admitted => none
  | .exceeded _ => none

def step (limit : ℕ) (cost : ℚ) (state : State) : Label → Option State
  | .tick ms => some (state.tick ms)
  | .call id => advance limit cost state id

end LlmopsGateway.RateLimit
