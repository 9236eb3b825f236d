import LlmopsGateway.Model.PyText

/-! # Chat requests and their keys

The provider-agnostic request, with the two texts it derives from itself: the canonical prompt
and the fingerprint of the parameters that must match for a cache hit. The key of the exact cache hashes the
whitespace-normalized canonical prompt and the parameter fingerprint, and names the tenant in the clear; the
coalescing lock has a key of the same shape. The semantic cache filters its points by three fields. SHA-256,
with its hexadecimal digest, is a parameter.
-/

namespace LlmopsGateway

open PyText

inductive Role
  | system
  | user
  | assistant
  | tool
deriving DecidableEq, Repr

def Role.text : Role → List Char
  | .system => "system".toList
  | .user => "user".toList
  | .assistant => "assistant".toList
  | .tool => "tool".toList

structure ChatMessage where
  role : Role
  content : String
deriving DecidableEq, Repr

structure ChatRequest where
  model : String
  messages : List ChatMessage
  temperature : PyFloat := { text := "1.0" }
  maxTokens : Option ℤ := none
  topP : PyFloat := { text := "1.0" }
  stream : Bool := false
  stop : Option (List String) := none
  cacheBypass : Bool := false
  providerOverride : Option String := none
  adapterId : Option String := none
  modelAlias : Option String := none
  adapterStage : Option String := none
deriving DecidableEq

/-- `f"{role}:{content}"`. -/
def ChatMessage.line (message : ChatMessage) : List Char :=
  message.role.text ++ ':' :: message.content.toList

namespace ChatRequest

def canonicalPrompt (request : ChatRequest) : List Char :=
  Words.join '\n' (request.messages.map ChatMessage.line)

/-- `adapter_id or ""`. -/
def adapter (request : ChatRequest) : String := request.adapterId.getD ""

def paramsFingerprint (isPrintable : Char → Bool) (request : ChatRequest) : List Char :=
  request.model.toList ++ '|' :: (request.adapter.toList ++ '|' :: (request.temperature.text.toList ++
    '|' :: (strOfInt request.maxTokens ++ '|' :: (request.topP.text.toList ++
      '|' :: strOfStop isPrintable request.stop))))

end ChatRequest

variable (sha256 : List Char → List Char) (isPrintable : Char → Bool)

/-- `" ".join(text.strip().split())`. -/
def normalizePrompt (text : List Char) : List Char :=
  Words.join ' ' (Words.split isSpace (Words.strip isSpace text))

/-- What `exact_cache_key` hashes. -/
def ChatRequest.fingerprint (request : ChatRequest) : List Char :=
  normalizePrompt request.canonicalPrompt ++ '|' :: request.paramsFingerprint isPrintable

def exactCacheKey (request : ChatRequest) : List Char :=
  "cache:exact:".toList ++ sha256 (request.fingerprint isPrintable)

/-- `RedisExactCache._key`. -/
def RedisExactCache.key (request : ChatRequest) (tenantId : String) : List Char :=
  exactCacheKey sha256 isPrintable request ++ (":tenant:".toList ++ tenantId.toList)

/-- `CacheService._lock_key`. -/
def CacheService.lockKey (request : ChatRequest) (tenantId : String) : List Char :=
  "lock:".toList ++ RedisExactCache.key sha256 isPrintable request tenantId

def paramsHash (request : ChatRequest) : List Char := (sha256 (request.paramsFingerprint isPrintable)).take 16

/-- The payload fields that a point must match. -/
structure SemanticFilter where
  tenantId : String
  modelFamily : String
  paramsHash : List Char
deriving DecidableEq

/-- `QdrantSemanticCache._build_filter`. -/
def QdrantSemanticCache.buildFilter (request : ChatRequest) (tenantId : String) : SemanticFilter :=
  ⟨tenantId, request.model, paramsHash sha256 isPrintable request⟩

end LlmopsGateway
