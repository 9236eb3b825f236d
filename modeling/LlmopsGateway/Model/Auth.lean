import Mathlib.Data.Finset.Basic
import Mathlib.Logic.Function.Basic

/-! # Authentication and revocation

`AuthService` keeps principals in Redis under the digest of the raw key and reads the committed
`api_keys` rows on a miss. The machine interleaves any number of `authenticate` calls with one
`revoke_api_key` call, one Redis command or database access a step: `GET`, the read of the row
and `SET EX` on one side; the flushed `UPDATE`, the `DELETE` of the cache entry and the commit at
the end of the session on the other. Redis and Postgres answer. Time is counted in milliseconds.

The cached payload holds every field of the principal and the scopes sorted, so decoding it
returns the principal that was stored. `_touch_last_used` writes a column nothing here reads.

Another machine has these steps and one more: any other transaction commits a change of the row of a key or of
the status of its tenant, and leaves the cache as it is. No endpoint suspends a tenant or changes scopes, so
such changes reach the service only through the tables. The start of a call and its read of the row are history
there.
-/

namespace LlmopsGateway.Auth

theorem defaultTtl_pos : 0 < 300 := by decide

structure Settings where
  pepper : String := "dev-insecure-pepper-change-me"
  cacheTtlSeconds : ℕ := 300
  cacheTtl_pos : 0 < cacheTtlSeconds := by first | exact defaultTtl_pos | decide

def Settings.cacheTtlMs (settings : Settings) : ℕ := 1000 * settings.cacheTtlSeconds

theorem Settings.cacheTtlMs_pos (settings : Settings) : 0 < settings.cacheTtlMs :=
  Nat.mul_pos (by decide) settings.cacheTtl_pos

def apiKeyPrefix : String := "llmops_"

def isValidApiKeyFormat (rawKey : String) : Bool :=
  apiKeyPrefix.toList.isPrefixOf rawKey.toList && apiKeyPrefix.length < rawKey.length

/-- The hex digest stored in `api_keys.key_hash`. -/
def hashApiKey (sha256 : String → String) (settings : Settings) (rawKey : String) : String :=
  sha256 (settings.pepper ++ rawKey)

structure AuthenticatedPrincipal where
  tenantId : String
  apiKeyId : String
  tenantStatus : String
  scopes : Finset String
  rateLimitPerMinute : Option ℤ := none
deriving DecidableEq

/-- An `api_keys` row joined with its tenant's status. -/
structure ApiKeyRecord where
  id : String
  tenantId : String
  scopes : List String
  tenantStatus : String
  revokedAt : Option ℕ
deriving DecidableEq

/-- `_load_from_database` on the row of a digest. -/
def ApiKeyRecord.principal? (record : ApiKeyRecord) : Option AuthenticatedPrincipal :=
  match record.revokedAt with
  | some _ => none
  | none =>
    some {
      tenantId := record.tenantId
      apiKeyId := record.id
      tenantStatus := record.tenantStatus
      scopes := record.scopes.toFinset }

structure CacheEntry where
  principal : AuthenticatedPrincipal
  deadline : ℕ
deriving DecidableEq

/-- Where an `authenticate` call stands. -/
inductive Call
  | idle
  | get (keyHash : String)
  | load (keyHash : String)
  | set (keyHash : String) (principal : AuthenticatedPrincipal)
  | returned (principal : Option AuthenticatedPrincipal)
deriving DecidableEq

/-- Where the `revoke_api_key` call stands. -/
inductive Revocation
  | idle
  | updated (keyHash : String)
  | deleted (keyHash : String)
  | returnedTrue (keyHash : String)
  | returnedFalse
deriving DecidableEq

/-- `apiKeys` are the committed rows. `lastSet` (the time of the latest `SET` that no `DELETE`
followed) and `startedAfter` (calls with the revoked key that started after `revoke_api_key`
returned `True`) are history. -/
structure State where
  clock : ℕ := 0
  redis : String → Option CacheEntry := fun _ => none
  apiKeys : String → Option ApiKeyRecord := fun _ => none
  calls : ℕ → Call := fun _ => .idle
  revocation : Revocation := .idle
  lastSet : String → Option ℕ := fun _ => none
  startedAfter : ℕ → Bool := fun _ => false

/-- Before the first step the stores may hold anything. -/
def State.initial (redis : String → Option CacheEntry) (apiKeys : String → Option ApiKeyRecord) :
    State :=
  { redis, apiKeys }

inductive Label
  | tick (ms : ℕ)
  | authenticate (id : ℕ) (rawKey : String)
  | get (id : ℕ)
  | load (id : ℕ)
  | set (id : ℕ)
  | revoke (keyHash : String)
  | delete
  | commit
deriving DecidableEq, Repr

namespace State

def goto (state : State) (id : ℕ) (next : Call) : State :=
  { state with calls := Function.update state.calls id next }

/-- History: is the revocation of this key over as the call starts? -/
def noteStart (state : State) (id : ℕ) (keyHash : String) : State :=
  { state with
    startedAfter := Function.update state.startedAfter id
      (decide (state.revocation = Revocation.returnedTrue keyHash)) }

/-- Time passes; entries whose deadline is reached are gone. -/
def tick (state : State) (ms : ℕ) : State :=
  { state with
    clock := state.clock + ms
    redis := fun keyHash => (state.redis keyHash).filter fun entry => state.clock + ms < entry.deadline }

/-- The read-committed `SELECT` for the row of a digest that is not revoked. -/
def loadFromDatabase (state : State) (keyHash : String) : Option AuthenticatedPrincipal :=
  (state.apiKeys keyHash).bind ApiKeyRecord.principal?

/-- `SET auth:v1:{key_hash} payload EX ttl`. -/
def setCached (settings : Settings) (state : State) (keyHash : String)
    (principal : AuthenticatedPrincipal) : State :=
  { state with
    redis := Function.update state.redis keyHash (some ⟨principal, state.clock + settings.cacheTtlMs⟩)
    lastSet := Function.update state.lastSet keyHash (some state.clock) }

/-- `DELETE auth:v1:{key_hash}`. -/
def invalidateCacheByHash (state : State) (keyHash : String) : State :=
  { state with
    redis := Function.update state.redis keyHash none
    lastSet := Function.update state.lastSet keyHash none }

/-- `COMMIT` makes the new `revoked_at` visible. -/
def commitRevocation (state : State) (keyHash : String) : State :=
  { state with
    apiKeys := Function.update state.apiKeys keyHash
      ((state.apiKeys keyHash).map fun record => { record with revokedAt := some state.clock }) }

end State

/-- The head of `authenticate`. -/
def start (sha256 : String → String) (settings : Settings) (state : State) (id : ℕ)
    (rawKey : String) : State :=
  let keyHash := hashApiKey sha256 settings rawKey
  if isValidApiKeyFormat rawKey then (state.noteStart id keyHash).goto id (.get keyHash)
  else (state.noteStart id keyHash).goto id (.returned none)

def step (sha256 : String → String) (settings : Settings) (state : State) : Label → Option State
  | .tick ms => some (state.tick ms)
  | .authenticate id rawKey =>
    match state.calls id with
    | .idle => some (start sha256 settings state id rawKey)
    | _ => none
  | .get id =>
    match state.calls id with
    | .get keyHash =>
      some (state.goto id (match state.redis keyHash with
        | some entry => .returned (some entry.principal)
        | none => .load keyHash))
    | _ => none
  | .load id =>
    match state.calls id with
    | .load keyHash =>
      some (state.goto id (match state.loadFromDatabase keyHash with
        | some principal => .set keyHash principal
        | none => .returned none))
    | _ => none
  | .set id =>
    match state.calls id with
    | .set keyHash principal =>
      some ((state.setCached settings keyHash principal).goto id (.returned (some principal)))
    | _ => none
  | .revoke keyHash =>
    match state.revocation with
    | .idle =>
      match state.apiKeys keyHash with
      | none => some { state with revocation := .returnedFalse }
      | some record =>
        match record.revokedAt with
        | some _ => some { state with revocation := .returnedFalse }
        | none => some { state with revocation := .updated keyHash }
    | _ => none
  | .delete =>
    match state.revocation with
    | .updated keyHash =>
      some { state.invalidateCacheByHash keyHash with revocation := .deleted keyHash }
    | _ => none
  | .commit =>
    match state.revocation with
    | .deleted keyHash =>
      some { state.commitRevocation keyHash with revocation := .returnedTrue keyHash }
    | _ => none

namespace Rows

/-- `started` is when a call began and with which digest, `loadedAt` when it read the row. -/
structure State where
  auth : Auth.State
  started : ℕ → Option (String × ℕ) := fun _ => none
  loadedAt : ℕ → ℕ := fun _ => 0

inductive Label
  | auth (label : Auth.Label)
  | change (keyHash : String) (record : Option ApiKeyRecord)
deriving DecidableEq

/-- Nothing is cached and no call has begun. -/
def State.initial (apiKeys : String → Option ApiKeyRecord) : State where
  auth := .initial (fun _ => none) apiKeys

namespace State

def noteStart (state : State) (id : ℕ) (keyHash : String) : State :=
  { state with started := Function.update state.started id (some (keyHash, state.auth.clock)) }

def noteLoad (state : State) (id : ℕ) : State :=
  { state with loadedAt := Function.update state.loadedAt id state.auth.clock }

/-- The history of a step of `authenticate`. -/
def note (sha256 : String → String) (settings : Settings) (state : State) : Auth.Label → State
  | .authenticate id rawKey => state.noteStart id (hashApiKey sha256 settings rawKey)
  | .load id => state.noteLoad id
  | _ => state

end State

def step (sha256 : String → String) (settings : Settings) (state : State) : Label → Option State
  | .auth label => (Auth.step sha256 settings state.auth label).map fun auth =>
      { state.note sha256 settings label with auth }
  | .change keyHash record =>
      some { state with
        auth := { state.auth with apiKeys := Function.update state.auth.apiKeys keyHash record } }

end Rows

end LlmopsGateway.Auth
