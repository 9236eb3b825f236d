import LlmopsGateway.Machine.Run
import LlmopsGateway.Model.CacheLayer
import Mathlib.Data.List.MinMax
import Mathlib.Algebra.Order.Field.Rat

/-! # What one command of the cache layer does

The commands of `CacheService` as a relation with one rule for each way a command can go, and the keys
these commands name. With digests of one length the tenant can be read off a key, whatever string it is,
and no lock has the key of an entry.
-/

namespace LlmopsGateway.CacheLayer

open Machine
open Coalescing (Reply)

variable {κ ν : Type} {deployment : Deployment ν} {state next : State κ ν} {tenantId : String}

namespace Deployment

/-- SHA-256 in hexadecimal. -/
def FixedLength (deployment : Deployment ν) : Prop := ∀ text, (deployment.sha256 text).length = 64

theorem exactKey_eq (deployment : Deployment ν) (request : ChatRequest) (tenantId : String) :
    deployment.exactKey request tenantId = "cache:exact:".toList ++
      (deployment.sha256 (request.fingerprint deployment.isPrintable) ++
        (":tenant:".toList ++ tenantId.toList)) := by
  unfold exactKey RedisExactCache.key exactCacheKey
  exact List.append_assoc ..

theorem lockKey_eq (deployment : Deployment ν) (request : ChatRequest) (tenantId : String) :
    deployment.lockKey request tenantId = "lock:".toList ++ deployment.exactKey request tenantId := by
  unfold lockKey CacheService.lockKey exactKey
  exact rfl

variable {request other : ChatRequest} {otherId : String}

theorem tenant_of_exactKey (fixed : deployment.FixedLength)
    (same : deployment.exactKey request tenantId = deployment.exactKey other otherId) : tenantId = otherId := by
  rw [exactKey_eq, exactKey_eq] at same
  have tails := (List.append_inj (List.append_cancel_left same) ((fixed _).trans (fixed _).symm)).2
  exact String.toList_inj.mp (List.append_cancel_left tails)

theorem tenant_of_lockKey (fixed : deployment.FixedLength)
    (same : deployment.lockKey request tenantId = deployment.lockKey other otherId) : tenantId = otherId :=
  tenant_of_exactKey fixed (List.append_cancel_left same)

/-- An entry's key starts with a `c`, a lock's with an `l`. -/
theorem exactKey_ne_lockKey : deployment.exactKey request tenantId ≠ deployment.lockKey other otherId := by
  intro same
  rw [exactKey_eq, lockKey_eq] at same
  exact absurd (List.cons.inj same).1 (by decide)

end Deployment

/-- A command of a call, from its phase to what it comes to. -/
inductive Performs (deployment : Deployment ν) (state : State κ ν) (tenantId : String) : Phase → Effect ν → Prop
  | exactHit {request hit reply} (found : exactCacheGet deployment state request tenantId reply = some hit) :
      Performs deployment state tenantId (.exactGet request)
        { phase := .done, result := some (.looked request (some hit) .exactHit) }
  | exactMiss {request} :
    Performs deployment state tenantId (.exactGet request) { phase := .semanticGet request }
  | semanticHit {request hit reply}
    (found : semanticCacheGet deployment state request tenantId reply = some hit) :
      Performs deployment state tenantId (.semanticGet request)
        { phase := .storing request hit true false, result := some (.looked request (some hit) .semanticHit) }
  | semanticMiss {request} : Performs deployment state tenantId (.semanticGet request)
      { phase := .done, result := some (.looked request none .miss) }
  | storeExact {request response semantic} (reply : Reply) :
      Performs deployment state tenantId (.storing request response true semantic)
        { phase := .storing request response false semantic
          write := landed reply (.set (deployment.exactKey request tenantId) (deployment.modelDumpJson response)
            (state.now + deployment.exactTtlMs)) }
  | storePoint {request response exact} (reply : Reply) :
      Performs deployment state tenantId (.storing request response exact true)
        { phase := .storing request response exact false
          write := landed reply (.upsert (deployment.point request tenantId response)) }
  | acquire {request} (won : Bool) (reply : Reply) : Performs deployment state tenantId (.acquiring request)
      { phase := .done
        result := some (.acquired request won)
        write := setNx deployment state (deployment.lockKey request tenantId) reply }
  | release {request} (reply : Reply) : Performs deployment state tenantId (.releasing request)
      { phase := .done, write := landed reply (.delete (deployment.lockKey request tenantId)) }
  | waitHit {request deadline wake hit reply}
      (found : exactCacheGet deployment state request tenantId reply = some hit) :
      Performs deployment state tenantId (.waiting request deadline wake)
        { phase := .done, result := some (.waited request (some hit)) }
  | waitMiss {request deadline wake} : Performs deployment state tenantId (.waiting request deadline wake)
      (sleep deployment state request deadline)

theorem performs_of_perform {phase : Phase} {store : Store} {reply : Reply} {effect : Effect ν}
    (performed : perform deployment state tenantId phase store reply = some effect) :
    Performs deployment state tenantId phase effect := by
  cases phase with
  | idle => cases performed
  | done => cases performed
  | exactGet request =>
    cases store with
    | qdrant => cases performed
    | redis =>
      rw [perform] at performed
      split at performed
      · rename_i found
        obtain rfl := Option.some.inj performed
        exact .exactHit found
      · obtain rfl := Option.some.inj performed
        exact .exactMiss
  | semanticGet request =>
    cases store with
    | redis => cases performed
    | qdrant =>
      rw [perform] at performed
      split at performed
      · rename_i found
        obtain rfl := Option.some.inj performed
        exact .semanticHit found
      · obtain rfl := Option.some.inj performed
        exact .semanticMiss
  | storing request response exact semantic =>
    cases store with
    | redis =>
      cases exact with
      | false => cases semantic <;> cases performed
      | true =>
        obtain rfl := Option.some.inj performed
        exact .storeExact reply
    | qdrant =>
      cases semantic with
      | false => cases exact <;> cases performed
      | true =>
        have upserted : perform deployment state tenantId (.storing request response exact true) .qdrant reply =
            some { phase := .storing request response exact false
                   write := landed reply (.upsert (deployment.point request tenantId response)) } := by
          cases exact <;> rfl
        obtain rfl := Option.some.inj (upserted.symm.trans performed)
        exact .storePoint reply
  | acquiring request =>
    cases store with
    | qdrant => cases performed
    | redis =>
      obtain rfl := Option.some.inj performed
      exact .acquire _ reply
  | releasing request =>
    cases store with
    | qdrant => cases performed
    | redis =>
      obtain rfl := Option.some.inj performed
      exact .release reply
  | waiting request deadline wake =>
    cases store with
    | qdrant => cases performed
    | redis =>
      rw [perform] at performed
      split_ifs at performed with early
      split at performed
      · rename_i found
        obtain rfl := Option.some.inj performed
        exact .waitHit found
      · obtain rfl := Option.some.inj performed
        exact .waitMiss

theorem eq_of_landed {reply : Reply} {write landing : Write ν} (lands : landed reply write = some landing) :
    landing = write := by
  rw [landed] at lands
  split at lands
  · exact (Option.some.inj lands).symm
  · cases lands

theorem eq_of_setNx {reply : Reply} {key : List Char} {landing : Write ν}
    (lands : setNx deployment state key reply = some landing) :
    landing = .set key "1" (state.now + deployment.lockTtlMs) := by
  rw [setNx] at lands
  split at lands
  · cases lands
  · exact eq_of_landed lands

theorem begin_write (deployment : Deployment ν) (state : State κ ν) (operation : Operation) :
    (begin deployment state operation).write = none := by
  cases operation with
  | lookup request =>
    rw [begin]
    split <;> rfl
  | wait request =>
    rw [begin, sleep]
    split <;> rfl
  | backfill | acquire | release => rfl

variable [DecidableEq κ]

/-- What a step of the machine can do. -/
theorem step_cases {label : Label κ} (stepped : step deployment state label = some next) :
    (∃ ms, label = .tick ms ∧ next = { state with now := state.now + ms }) ∨
    (∃ caller operation, label = .start caller operation ∧ state.calls caller = .idle ∧
      next = state.proceed caller (begin deployment state operation)) ∨
    (∃ caller store reply effect, label = .call caller store reply ∧
      Performs deployment state caller.tenantId (state.calls caller) effect ∧
        next = state.proceed caller effect) := by
  cases label with
  | tick ms => exact .inl ⟨ms, rfl, (Option.some.inj stepped).symm⟩
  | start caller operation =>
    rw [step] at stepped
    split at stepped
    · rename_i idle
      exact .inr (.inl ⟨caller, operation, rfl, idle, (Option.some.inj stepped).symm⟩)
    · cases stepped
  | call caller store reply =>
    rw [step] at stepped
    split at stepped
    · cases stepped
    · rename_i effect performed
      exact .inr (.inr ⟨caller, store, reply, effect, rfl, performs_of_perform performed,
        (Option.some.inj stepped).symm⟩)

section sample

def greeting : ChatRequest := { model := "gpt-4o", messages := [⟨.user, "hi"⟩] }

/-- An answer to `greeting` ... -/
def answer (status : CacheStatus) : ChatResponse where
  id := "answer"
  model := "gpt-4o"
  provider := "openai"
  message := ⟨.assistant, "Hello"⟩
  usage := ⟨10, 20⟩
  costUsd := 0
  cacheStatus := status
  traceId := ""
  createdAt := 0
  latencyMs := 0

def statusText : CacheStatus → String
  | .miss => "MISS"
  | .exactHit => "EXACT_HIT"
  | .semanticHit => "SEMANTIC_HIT"
  | .bypassed => "BYPASSED"

/-- ... as text ... -/
def answerText (status : CacheStatus) : String :=
  "\x7b\"id\":\"answer\",\"model\":\"gpt-4o\",\"provider\":\"openai\"," ++
    "\"message\":\x7b\"role\":\"assistant\",\"content\":\"Hello\"\x7d," ++
    "\"usage\":\x7b\"input_tokens\":10,\"output_tokens\":20\x7d,\"cost_usd\":0.0,\"cache_status\":\"" ++
    statusText status ++ "\",\"trace_id\":\"\",\"created_at\":\"1970-01-01T00:00:00Z\",\"latency_ms\":0.0," ++
    "\"adapter_id\":null,\"model_alias\":null,\"adapter_stage\":null\x7d"

/-- ... and as a payload. -/
def answerJson (status : CacheStatus) : Json :=
  .obj [("id", .str "answer"), ("model", .str "gpt-4o"), ("provider", .str "openai"),
    ("message", .obj [("role", .str "assistant"), ("content", .str "Hello")]),
    ("usage", .obj [("input_tokens", .int 10), ("output_tokens", .int 20)]),
    ("cost_usd", .float { text := "0.0" }),
    ("cache_status", .str (statusText status)), ("trace_id", .str ""),
    ("created_at", .str "1970-01-01T00:00:00Z"),
    ("latency_ms", .float { text := "0.0" }), ("adapter_id", .null), ("model_alias", .null),
    ("adapter_stage", .null)]

/-- SHA-256 of the texts in the sample requests, and a text of the right length elsewhere. -/
def sampleSha256 (text : List Char) : List Char :=
  if text = "user:hi|gpt-4o||1.0|None|1.0|None".toList then
    "346795aeebf81414a42d1b6c03c96f9cb2bf821bf7d2082141d8f658ae09c1c7".toList
  else if text = "user:hello|gpt-4o||1.0|None|1.0|None".toList then
    "9fc6b5a33d9e0252a82a3caaebf86774a1adf00001d717ce770aba7abc4c8545".toList
  else if text = "gpt-4o||1.0|None|1.0|None".toList then
    "7b8a3a2f9bb178ba6ce372e19eac949ea4da3e52b2668e0f60c33145e1ed27e8".toList
  else List.replicate 64 '0'

def statuses : List CacheStatus := [.miss, .exactHit, .semanticHit, .bypassed]

/-- A deployment that reads and writes `answer`, and embeds `hi` and `hello` at a cosine of 0.96. -/
def sampleDeployment : Deployment (ℚ × ℚ) where
  sha256 := sampleSha256
  isPrintable := fun _ => false
  modelDumpJson response :=
    if response = answer response.cacheStatus then answerText response.cacheStatus else "null"
  modelValidateJson text := (statuses.find? fun status => answerText status = text).map answer
  modelDump response :=
    if response = answer response.cacheStatus then answerJson response.cacheStatus else .null
  modelValidate
    | .obj fields =>
      match Json.field? fields "cache_status" with
      | some (.str text) => (statuses.find? fun status => statusText status = text).map answer
      | _ => none
    | _ => none
  embed text :=
    if text = "user:hi".toList then (1, 0) else if text = "user:hello".toList then (24 / 25, 7 / 25) else (0, 1)
  score vector other := vector.1 * other.1 + vector.2 * other.2
  queryPoints vector points :=
    (points.argmax fun point => vector.1 * point.vector.1 + vector.2 * point.vector.2).filter fun point =>
      19 / 20 ≤ vector.1 * point.vector.1 + vector.2 * point.vector.2

theorem sampleDeployment_fixedLength : sampleDeployment.FixedLength := by
  intro text
  change (sampleSha256 text).length = 64
  unfold sampleSha256
  split_ifs <;> simp

end sample

end LlmopsGateway.CacheLayer
