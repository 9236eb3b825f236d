import LlmopsGateway.Model.Middleware

/-! # `RateLimitService` over the Redis of all tenants

Any number of `check_and_increment` calls for any tenants over one Redis. A call reads the clock, and each of
its Redis commands is one on the key of its tenant, as in the machine of a single tenant. A command may also
fail, before or after it took effect on the server. Then the call is over, with `fail_open` without a check,
but for an `EXEC` whose connection is lost: the client raises a `WatchError` there, because the watch went with
the connection, and the call goes on to its next round. What a call is charged is history.
-/

namespace LlmopsGateway.RateLimit

/-- A key as Redis has it, with the version that `WATCH` compares. -/
structure Key where
  bucket : Option Bucket := none
  expiresAt : Option ℕ := none
  version : ℕ := 0
deriving DecidableEq, Repr

def Key.tick (nowMs : ℕ) (key : Key) : Key :=
  if key.expiresAt.any (· ≤ nowMs) then { version := key.version + 1 } else key

/-- A call that has not arrived, returned without a check, is in `_consume_token` or at its end, or was stopped
there by an exception. -/
inductive Request
  | idle
  | unmetered (tenantId : String)
  | consuming (tenantId : String) (limit : ℕ) (call : Call)
  | stopped (tenantId : String)
deriving DecidableEq, Repr

/-- How a command fails: the connection is lost or times out, or something else is raised. -/
inductive Failure
  | connection
  | other
deriving DecidableEq, Repr

/-- After a `WatchError` in `EXEC`. -/
def nextRound (limit nowMs tries : ℕ) : Call :=
  if tries + 1 < 5 then .watch nowMs (tries + 1) else .exceeded (retryAfterSeconds (1 / refillRate limit))

/-- What becomes of a call whose next command fails. -/
def failed (tenantId : String) (limit : ℕ) : Failure → Call → Request
  | .connection, .exec nowMs tries _ _ => .consuming tenantId limit (nextRound limit nowMs tries)
  | _, _ => .stopped tenantId

/-- An `EXEC` that took effect. -/
structure Charge where
  id : ℕ
  tenantId : String
  instant : ℕ
deriving DecidableEq, Repr

/-- `charges` is history, latest first. -/
structure Keyspace where
  clock : ℕ := 0
  keys : String → Key := fun _ => {}
  requests : ℕ → Request := fun _ => .idle
  charges : List Charge := []

namespace Keyspace

inductive Label
  | tick (ms : ℕ)
  | arrive (id : ℕ) (tenantId : String) (limitPerMinute : Option ℤ)
  | command (id : ℕ)
  | fault (id : ℕ) (failure : Failure) (applied : Bool)
deriving DecidableEq, Repr

def goto (keyspace : Keyspace) (id : ℕ) (next : Request) : Keyspace :=
  { keyspace with requests := Function.update keyspace.requests id next }

theorem goto_requests_self (keyspace : Keyspace) (id : ℕ) (next : Request) :
    (keyspace.goto id next).requests id = next :=
  Function.update_self ..

theorem goto_requests_of_ne (keyspace : Keyspace) {id other : ℕ} (next : Request) (different : other ≠ id) :
    (keyspace.goto id next).requests other = keyspace.requests other :=
  Function.update_of_ne different ..

/-- What a call sees of Redis. -/
def view (keyspace : Keyspace) (tenantId : String) (call : Call) : State :=
  let key := keyspace.keys (Middleware.rateLimitKey tenantId)
  { clock := keyspace.clock
    bucket := key.bucket
    expiresAt := key.expiresAt
    version := key.version
    calls := fun _ => call }

/-- Redis after a command on the key of a tenant. -/
def write (keyspace : Keyspace) (id : ℕ) (tenantId : String) (after : State) : Keyspace :=
  { keyspace with
    keys := Function.update keyspace.keys (Middleware.rateLimitKey tenantId)
      ⟨after.bucket, after.expiresAt, after.version⟩
    charges :=
      if after.calls id = .admitted then ⟨id, tenantId, keyspace.clock⟩ :: keyspace.charges
      else keyspace.charges }

theorem write_keys_self (keyspace : Keyspace) (id : ℕ) (tenantId : String) (after : State) :
    (keyspace.write id tenantId after).keys (Middleware.rateLimitKey tenantId) =
      ⟨after.bucket, after.expiresAt, after.version⟩ :=
  Function.update_self ..

theorem write_keys_of_ne (keyspace : Keyspace) (id : ℕ) (tenantId : String) (after : State) {key : String}
    (different : key ≠ Middleware.rateLimitKey tenantId) :
    (keyspace.write id tenantId after).keys key = keyspace.keys key :=
  Function.update_of_ne different ..

/-- The next command of a call takes effect; `some` with the call that has its reply. -/
def send (keyspace : Keyspace) (cost : ℚ) (id : ℕ) (tenantId : String) (limit : ℕ) (call : Call) :
    Option (Keyspace × Call) :=
  (advance limit cost (keyspace.view tenantId call) id).map fun after =>
    (keyspace.write id tenantId after, after.calls id)

def step (service : RateLimitService) (cost : ℚ) (keyspace : Keyspace) : Label → Option Keyspace
  | .tick ms =>
    some { keyspace with
      clock := keyspace.clock + ms
      keys := fun key => (keyspace.keys key).tick (keyspace.clock + ms) }
  | .arrive id tenantId limitPerMinute =>
    match keyspace.requests id with
    | .idle =>
      some (keyspace.goto id (match service.limit? limitPerMinute with
        | none => .unmetered tenantId
        | some limit => .consuming tenantId limit (.watch keyspace.clock 0)))
    | _ => none
  | .command id =>
    match keyspace.requests id with
    | .consuming tenantId limit call =>
      (keyspace.send cost id tenantId limit call).map fun (after, call) =>
        after.goto id (.consuming tenantId limit call)
    | _ => none
  | .fault id failure applied =>
    match keyspace.requests id with
    | .consuming tenantId limit call =>
      (keyspace.send cost id tenantId limit call).map fun (after, _) =>
        (if applied then after else keyspace).goto id (failed tenantId limit failure call)
    | _ => none

end Keyspace

/-- How `check_and_increment` ends. -/
inductive Outcome
  | returned
  | exceeded (retryAfterSeconds : ℚ)
  | raised
deriving DecidableEq, Repr

def Request.outcome (service : RateLimitService) : Request → Option Outcome
  | .unmetered _ => some .returned
  | .consuming _ _ .admitted => some .returned
  | .consuming _ _ (.exceeded retryAfterSeconds) => some (.exceeded retryAfterSeconds)
  | .stopped _ => some (if service.failOpen then .returned else .raised)
  | _ => none

end LlmopsGateway.RateLimit
