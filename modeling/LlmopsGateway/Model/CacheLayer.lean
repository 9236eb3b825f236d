import LlmopsGateway.Machine.Expiring
import LlmopsGateway.Model.ChatRequest
import LlmopsGateway.Model.ChatResponse
import LlmopsGateway.Model.Coalescing
import LlmopsGateway.Model.PyJson

/-! # The two cache layers and their callers

`CacheService` over one Redis and one Qdrant collection, both shared by all tenants. Any number of
calls of its operations are interleaved, one command to a store a step: `GET`, `SET`, `SET NX` and
`DELETE` on the Redis side, the query and the upsert on the Qdrant side. Redis holds the entries of the
exact cache and the coalescing locks in one keyspace, and forgets them at their deadlines. Time is
counted in milliseconds.

A point gets a fresh id, so an upsert adds it. The embedding and the query are one step, since nothing
is shared before the query.
-/

namespace LlmopsGateway.CacheLayer

open Machine
open Coalescing (Reply)

variable {κ ν : Type} [DecidableEq κ]

/-- A point: the filtered fields of its payload, its vector and the `response` of its payload. -/
structure Point (ν : Type) where
  filter : SemanticFilter
  vector : ν
  response : Json

/-- What the service is built with: its durations, SHA-256, pydantic's two forms of a response with `none`
for a `ValueError`, and the vectors. `queryPoints` picks from the points that passed the filter. -/
structure Deployment (ν : Type) extends Coalescing.Settings where
  exactTtlSeconds : ℕ := 3600
  exactTtl_pos : 0 < exactTtlSeconds := by decide
  sha256 : List Char → List Char
  isPrintable : Char → Bool
  modelDumpJson : ChatResponse → String
  modelValidateJson : String → Option ChatResponse
  modelDump : ChatResponse → Json
  modelValidate : Json → Option ChatResponse
  embed : List Char → ν
  score : ν → ν → ℚ
  similarityThreshold : ℚ := 19 / 20
  queryPoints : ν → List (Point ν) → Option (Point ν)

/-- A call is known by its tenant and a name. -/
structure Caller (κ : Type) where
  tenantId : String
  id : κ
deriving DecidableEq

/-- The operations of `CacheService`. -/
inductive Operation
  | lookup (request : ChatRequest)
  | backfill (request : ChatRequest) (response : ChatResponse)
  | acquire (request : ChatRequest)
  | release (request : ChatRequest)
  | wait (request : ChatRequest)

/-- What `lookup`, `acquire_coalescing_lock` and `wait_for_coalesced_result` return. -/
inductive Result
  | looked (request : ChatRequest) (hit : Option ChatResponse) (status : CacheStatus)
  | acquired (request : ChatRequest) (won : Bool)
  | waited (request : ChatRequest) (hit : Option ChatResponse)
deriving DecidableEq

/-- Where a call stands: its next command. `storing` has the writes that are still to do, of a backfill
or of the task that follows a semantic hit. -/
inductive Phase
  | idle
  | exactGet (request : ChatRequest)
  | semanticGet (request : ChatRequest)
  | storing (request : ChatRequest) (response : ChatResponse) (exact semantic : Bool)
  | acquiring (request : ChatRequest)
  | releasing (request : ChatRequest)
  | waiting (request : ChatRequest) (deadline wake : ℕ)
  | done

inductive Store
  | redis
  | qdrant
deriving DecidableEq, Repr

/-- A change of a store. -/
inductive Write (ν : Type)
  | set (key : List Char) (value : String) (deadline : ℕ)
  | delete (key : List Char)
  | upsert (point : Point ν)

/-- What a step of a call comes to. -/
structure Effect (ν : Type) where
  phase : Phase
  result : Option Result := none
  write : Option (Write ν) := none

structure State (κ ν : Type) where
  now : ℕ := 0
  redis : Expiring (List Char) String := {}
  points : List (Point ν) := []
  calls : Caller κ → Phase := fun _ => .idle
  results : Caller κ → Option Result := fun _ => none

/-- Time passes, an operation begins, or a call sends its next command to a store. -/
inductive Label (κ : Type)
  | tick (ms : ℕ)
  | start (caller : Caller κ) (operation : Operation)
  | call (caller : Caller κ) (store : Store) (reply : Reply)

namespace State

def store (state : State κ ν) : Write ν → State κ ν
  | .set key value deadline => { state with redis := state.redis.set key value deadline }
  | .delete key => { state with redis := state.redis.delete key }
  | .upsert point => { state with points := state.points ++ [point] }

/-- The state after a step of a call. -/
def proceed (state : State κ ν) (caller : Caller κ) (effect : Effect ν) : State κ ν :=
  let written := effect.write.elim state state.store
  { written with
    calls := Function.update state.calls caller effect.phase
    results := match effect.result with
      | none => state.results
      | some result => Function.update state.results caller (some result) }

end State

variable (deployment : Deployment ν)

namespace Deployment

def exactTtlMs : ℕ := 1000 * deployment.exactTtlSeconds

variable (request : ChatRequest) (tenantId : String)

/-- `RedisExactCache._key`. -/
def exactKey : List Char := RedisExactCache.key deployment.sha256 deployment.isPrintable request tenantId

/-- `CacheService._lock_key`. -/
def lockKey : List Char := CacheService.lockKey deployment.sha256 deployment.isPrintable request tenantId

def buildFilter : SemanticFilter :=
  QdrantSemanticCache.buildFilter deployment.sha256 deployment.isPrintable request tenantId

/-- The vector of the normalized prompt. -/
def vector : ν := deployment.embed (normalizePrompt request.canonicalPrompt)

/-- The point `_set_impl` upserts. -/
def point (response : ChatResponse) : Point ν where
  filter := deployment.buildFilter request tenantId
  vector := deployment.vector request
  response := deployment.modelDump response

end Deployment

section steps

variable (state : State κ ν) (request : ChatRequest) (tenantId : String)

/-- `RedisExactCache.get`; a `GET` that is not answered in time is a miss. -/
def exactCacheGet : Reply → Option ChatResponse
  | .ok =>
    match state.redis.get state.now (deployment.exactKey request tenantId) with
    | none => none
    | some raw =>
      match deployment.modelValidateJson raw with
      | none => none
      | some response => some { response with cacheStatus := .exactHit }
  | _ => none

/-- `payload.get("response")` of the best point, validated. -/
def readPoint (best : Point ν) : Option ChatResponse :=
  match best.response with
  | .null => none
  | data => (deployment.modelValidate data).map fun response => { response with cacheStatus := .semanticHit }

/-- `QdrantSemanticCache.get`. -/
def semanticCacheGet : Reply → Option ChatResponse
  | .ok =>
    match deployment.queryPoints (deployment.vector request)
        (state.points.filter fun point => point.filter = deployment.buildFilter request tenantId) with
    | none => none
    | some best => readPoint deployment best
  | _ => none

/-- The loop head of `wait_for_coalesced_result`. -/
def sleep (deadline : ℕ) : Effect ν :=
  if state.now < deadline then { phase := .waiting request deadline (state.now + deployment.pollIntervalMs) }
  else { phase := .done, result := some (.waited request none) }

/-- An operation up to its first command. -/
def begin : Operation → Effect ν
  | .lookup request =>
    if request.cacheBypass then { phase := .done, result := some (.looked request none .bypassed) }
    else { phase := .exactGet request }
  | .backfill request response => { phase := .storing request response true true }
  | .acquire request => { phase := .acquiring request }
  | .release request => { phase := .releasing request }
  | .wait request => sleep deployment state request (state.now + deployment.waitMs)

/-- A write, if its command takes effect. -/
def landed (reply : Reply) (write : Write ν) : Option (Write ν) :=
  if reply.applied then some write else none

/-- `SET key "1" NX EX ttl`, whose effect is nothing on a live key. -/
def setNx (key : List Char) (reply : Reply) : Option (Write ν) :=
  if (state.redis.get state.now key).isSome then none
  else landed reply (.set key "1" (state.now + deployment.lockTtlMs))

/-- The next command of a call; `none` if the call sends no command to this store now. -/
def perform : Phase → Store → Reply → Option (Effect ν)
  | .exactGet request, .redis, reply =>
    match exactCacheGet deployment state request tenantId reply with
    | some hit => some { phase := .done, result := some (.looked request (some hit) .exactHit) }
    | none => some { phase := .semanticGet request }
  | .semanticGet request, .qdrant, reply =>
    match semanticCacheGet deployment state request tenantId reply with
    -- the response is returned, and the write to the exact cache goes on as a task
    | some hit => some { phase := .storing request hit true false
                         result := some (.looked request (some hit) .semanticHit) }
    | none => some { phase := .done, result := some (.looked request none .miss) }
  | .storing request response true semantic, .redis, reply =>
    some { phase := .storing request response false semantic
           write := landed reply (.set (deployment.exactKey request tenantId)
             (deployment.modelDumpJson response) (state.now + deployment.exactTtlMs)) }
  | .storing request response exact true, .qdrant, reply =>
    some { phase := .storing request response exact false
           write := landed reply (.upsert (deployment.point request tenantId response)) }
  | .acquiring request, .redis, reply =>
    let key := deployment.lockKey request tenantId
    -- a `RedisError` fails open
    some { phase := .done
           result := some (.acquired request (reply ≠ .ok || (state.redis.get state.now key).isNone))
           write := setNx deployment state key reply }
  | .releasing request, .redis, reply =>
    some { phase := .done, write := landed reply (.delete (deployment.lockKey request tenantId)) }
  | .waiting request deadline wake, .redis, reply =>
    if state.now < wake then none
    else
      match exactCacheGet deployment state request tenantId reply with
      | some hit => some { phase := .done, result := some (.waited request (some hit)) }
      | none => some (sleep deployment state request deadline)
  | _, _, _ => none

def step : Label κ → Option (State κ ν)
  | .tick ms => some { state with now := state.now + ms }
  | .start caller operation =>
    match state.calls caller with
    | .idle => some (state.proceed caller (begin deployment state operation))
    | _ => none
  | .call caller store reply =>
    match perform deployment state caller.tenantId (state.calls caller) store reply with
    | none => none
    | some effect => some (state.proceed caller effect)

end steps

end LlmopsGateway.CacheLayer
