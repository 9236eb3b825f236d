import LlmopsGateway.Machine.Run
import LlmopsGateway.Model.ChatRequest
import LlmopsGateway.Model.PyJson
import Mathlib.Data.Rat.Defs
import Mathlib.Logic.Function.Basic

/-! # Semantic caches over one Qdrant server

Any number of `QdrantSemanticCache`s share the collections of a server. `ensure_collection` is taken apart
into its calls of the server, each of which may raise before or after it takes effect; the process-local
lock admits one call at a time. Behind it, `set` and `get` send one upsert and one query. Where an embedding
or a query raises, the cache swallows it and nothing changes. The models of `sentence_transformers` are a
parameter.
-/

namespace LlmopsGateway

/-- A loaded model of `sentence_transformers`. -/
structure SentenceTransformer where
  dimension : ℕ
  encode : List Char → List ℚ
  length_encode : ∀ text, (encode text).length = dimension

/-- `LocalEmbeddingProvider` and `ApiEmbeddingProvider` with their model names. -/
inductive EmbeddingProvider
  | localProvider (modelName : String)
  | apiProvider (modelName : String)
deriving DecidableEq

namespace EmbeddingProvider

def knownModelDimensions : List (String × ℕ) :=
  [("all-MiniLM-L6-v2", 384), ("all-mpnet-base-v2", 768), ("multi-qa-MiniLM-L6-cos-v1", 384),
    ("paraphrase-MiniLM-L6-v2", 384)]

def defaultDimensionFallback : ℕ := 384

/-- `_MODEL_DIMENSIONS` of the API provider. -/
def modelDimensions : List (String × ℕ) := [("text-embedding-3-small", 1536), ("text-embedding-3-large", 3072)]

def modelId : EmbeddingProvider → List Char
  | localProvider modelName => "local-".toList ++ modelName.toList
  | apiProvider modelName => "api-".toList ++ modelName.toList

variable (transformer : String → SentenceTransformer)

/-- `dimension`, which is known for sure once a local model is loaded. -/
def dimension (loaded : Bool) : EmbeddingProvider → ℕ
  | localProvider modelName =>
    if loaded then (transformer modelName).dimension
    else (knownModelDimensions.lookup modelName).getD defaultDimensionFallback
  | apiProvider modelName => (modelDimensions.lookup modelName).getD 1536

/-- `embed` when it is in time; the API provider raises `NotImplementedError`. -/
def embed (text : List Char) : EmbeddingProvider → Option (List ℚ)
  | localProvider modelName => some ((transformer modelName).encode text)
  | apiProvider _ => none

end EmbeddingProvider

/-- `text.replace(old, new)` for single characters. -/
def replaceChar (old new : Char) (text : List Char) : List Char := text.map fun c => if c = old then new else c

/-- `safe` in `collection_name`. -/
def safeName (embeddingModelId : List Char) : List Char :=
  replaceChar '-' '_' (replaceChar ':' '_' (replaceChar '.' '_' embeddingModelId))

def collectionName (embeddingModelId : List Char) : List Char :=
  "semantic_cache__".toList ++ safeName embeddingModelId

namespace QdrantSemanticCache

def filteredPayloadFields : List String := ["tenant_id", "model_family", "params_hash"]

inductive Distance
  | cosine
deriving DecidableEq, Repr

structure VectorParams where
  size : ℕ
  distance : Distance
deriving DecidableEq, Repr

inductive PayloadSchemaType
  | keyword
deriving DecidableEq, Repr

/-- A point: the filtered fields of its payload, its vector and the `response` of its payload. The provider
it was stored through is history. -/
structure Point where
  filter : SemanticFilter
  vector : List ℚ
  response : Json
  storedThrough : EmbeddingProvider

structure Collection where
  vectors : VectorParams
  payloadSchema : String → Option PayloadSchemaType := fun _ => none
  points : List Point := []

namespace Collection

def createPayloadIndex (collection : Collection) (fieldName : String) (fieldSchema : PayloadSchemaType) :
    Collection :=
  { collection with payloadSchema := Function.update collection.payloadSchema fieldName (some fieldSchema) }

def upsert (collection : Collection) (point : Point) : Collection :=
  { collection with points := collection.points ++ [point] }

end Collection

/-- Where the call of `ensure_collection` that holds the lock waits, with the fields that are still to be
indexed behind the current one. -/
inductive Ensuring
  | idle
  | checking
  | creating
  | indexing (fieldName : String) (rest : List String)
  | finishing
deriving DecidableEq, Repr

namespace Ensuring

/-- The loop over the fields. -/
def indexFrom : List String → Ensuring
  | [] => finishing
  | fieldName :: rest => indexing fieldName rest

/-- The call that is waited for takes effect and returns, or raises: a collection is not created twice, and
only one that exists is indexed. -/
def send (dimension : ℕ) : Ensuring → Option Collection → Option (Option Collection × Ensuring)
  | checking, some collection => some (some collection, finishing)
  | checking, none => some (none, creating)
  | creating, some collection => some (some collection, idle)
  | creating, none => some (some { vectors := ⟨dimension, .cosine⟩ }, indexFrom filteredPayloadFields)
  | indexing fieldName rest, some collection =>
    some (some (collection.createPayloadIndex fieldName .keyword), indexFrom rest)
  | indexing _ _, none => some (none, idle)
  | idle, _ => none
  | finishing, _ => none

end Ensuring

/-- A query: the provider of its vector, the points the vector was compared with, and the best of them. -/
structure Search where
  searchedThrough : EmbeddingProvider
  compared : List Point
  best : Option Point

/-- `searches` is history. -/
structure State (ι : Type) where
  collections : List Char → Option Collection := fun _ => none
  bootstrapped : ι → Bool := fun _ => false
  ensuring : ι → Ensuring := fun _ => .idle
  loaded : ι → Bool
  searches : List Search := []

/-- A step of one cache. `ensure` acquires the lock with `_bootstrapped` unset, `answer` is the call that
`ensure_collection` waits for, and `fail` lets that call raise, with its effect or without. A query is
answered with the place of the best point among those it compares. -/
inductive Label (ι : Type)
  | load (cache : ι)
  | ensure (cache : ι)
  | answer (cache : ι)
  | fail (cache : ι) (applied : Bool)
  | finish (cache : ι)
  | upsert (cache : ι) (request : ChatRequest) (response : Json) (tenantId : String)
  | query (cache : ι) (request : ChatRequest) (tenantId : String) (best : Option ℕ)

namespace State

variable {ι : Type} [DecidableEq ι] (state : State ι)

def goto (cache : ι) (ensuring : Ensuring) : State ι :=
  { state with ensuring := Function.update state.ensuring cache ensuring }

def put (name : List Char) (collection : Option Collection) : State ι :=
  { state with collections := Function.update state.collections name collection }

/-- The end of `ensure_collection`. -/
def bootstrap (cache : ι) : State ι :=
  { state with bootstrapped := Function.update state.bootstrapped cache true }.goto cache .idle

variable {state} {cache other : ι} {name : List Char} {collection : Option Collection}
  {ensuring after : Ensuring}

section put

omit [DecidableEq ι]

@[simp] theorem collections_put_self : (state.put name collection).collections name = collection :=
  Function.update_self ..

@[simp] theorem ensuring_put : (state.put name collection).ensuring = state.ensuring := rfl

@[simp] theorem bootstrapped_put : (state.put name collection).bootstrapped = state.bootstrapped := rfl

@[simp] theorem loaded_put : (state.put name collection).loaded = state.loaded := rfl

@[simp] theorem searches_put : (state.put name collection).searches = state.searches := rfl

@[simp] theorem put_put (later : Option Collection) :
    (state.put name collection).put name later = state.put name later := by
  simp [put]

end put

@[simp] theorem ensuring_goto_self : (state.goto cache ensuring).ensuring cache = ensuring :=
  Function.update_self ..

@[simp] theorem ensuring_goto_of_ne (apart : other ≠ cache) :
    (state.goto cache ensuring).ensuring other = state.ensuring other := Function.update_of_ne apart ..

@[simp] theorem collections_goto : (state.goto cache ensuring).collections = state.collections := rfl

@[simp] theorem bootstrapped_goto : (state.goto cache ensuring).bootstrapped = state.bootstrapped := rfl

@[simp] theorem loaded_goto : (state.goto cache ensuring).loaded = state.loaded := rfl

@[simp] theorem searches_goto : (state.goto cache ensuring).searches = state.searches := rfl

@[simp] theorem goto_goto : (state.goto cache ensuring).goto cache after = state.goto cache after := by
  simp [goto]

@[simp] theorem put_goto : (state.goto cache ensuring).put name collection =
    (state.put name collection).goto cache ensuring :=
  rfl

@[simp] theorem bootstrapped_bootstrap_self : (state.bootstrap cache).bootstrapped cache = true :=
  Function.update_self ..

@[simp] theorem bootstrapped_bootstrap_of_ne (apart : other ≠ cache) :
    (state.bootstrap cache).bootstrapped other = state.bootstrapped other := Function.update_of_ne apart ..

@[simp] theorem ensuring_bootstrap_self : (state.bootstrap cache).ensuring cache = .idle :=
  Function.update_self ..

@[simp] theorem ensuring_bootstrap_of_ne (apart : other ≠ cache) :
    (state.bootstrap cache).ensuring other = state.ensuring other := Function.update_of_ne apart ..

@[simp] theorem collections_bootstrap : (state.bootstrap cache).collections = state.collections := rfl

@[simp] theorem loaded_bootstrap : (state.bootstrap cache).loaded = state.loaded := rfl

@[simp] theorem searches_bootstrap : (state.bootstrap cache).searches = state.searches := rfl

@[simp] theorem bootstrap_goto : (state.goto cache ensuring).bootstrap cache = state.bootstrap cache := by
  simp [bootstrap, goto]

end State

/-- What the caches share: the embedding models, SHA-256 and Python's characters, the similarity of vectors
and its threshold. -/
structure Deployment where
  transformer : String → SentenceTransformer
  sha256 : List Char → List Char
  isPrintable : Char → Bool
  score : List ℚ → List ℚ → ℚ
  similarityThreshold : ℚ := 19 / 20

section step

variable {ι : Type} [DecidableEq ι] (deployment : Deployment) (provider : ι → EmbeddingProvider)
    (state : State ι)

/-- `_collection`. -/
def collection (cache : ι) : List Char := collectionName (provider cache).modelId

/-- The vector of the normalized prompt. -/
def vector (cache : ι) (request : ChatRequest) : Option (List ℚ) :=
  (provider cache).embed deployment.transformer (normalizePrompt request.canonicalPrompt)

/-- The call that `ensure_collection` waits for. -/
def sent (cache : ι) : Option (Option Collection × Ensuring) :=
  (state.ensuring cache).send ((provider cache).dimension deployment.transformer (state.loaded cache))
    (state.collections (collection provider cache))

/-- The collection of a bootstrapped cache, if it takes vectors of this length. -/
def reached (cache : ι) (vector : List ℚ) : Option Collection :=
  if state.bootstrapped cache then
    (state.collections (collection provider cache)).filter fun collection =>
      collection.vectors.size = vector.length
  else none

/-- The points a query compares its vector with. -/
def compared (collection : Collection) (request : ChatRequest) (tenantId : String) : List Point :=
  collection.points.filter fun point =>
    point.filter = buildFilter deployment.sha256 deployment.isPrintable request tenantId

def step : Label ι → Option (State ι)
  | .load cache => some { state with loaded := Function.update state.loaded cache true }
  | .ensure cache =>
    if state.bootstrapped cache = false ∧ state.ensuring cache = .idle
      then some (state.goto cache .checking) else none
  | .answer cache =>
    (sent deployment provider state cache).map fun (created, next) =>
      (state.put (collection provider cache) created).goto cache next
  | .fail cache applied =>
    (sent deployment provider state cache).map fun (created, _) =>
      (if applied then state.put (collection provider cache) created else state).goto cache .idle
  | .finish cache =>
    if state.ensuring cache = .finishing then some (state.bootstrap cache) else none
  | .upsert cache request response tenantId =>
    (vector deployment provider cache request).bind fun vector =>
      (reached provider state cache vector).map fun stored =>
        { state.put (collection provider cache) (some (stored.upsert
            ⟨buildFilter deployment.sha256 deployment.isPrintable request tenantId, vector, response,
              provider cache⟩)) with
          loaded := Function.update state.loaded cache true }
  | .query cache request tenantId best =>
    (vector deployment provider cache request).bind fun vector =>
      (reached provider state cache vector).bind fun searched =>
        let points := compared deployment searched request tenantId
        let best := best.bind (points[·]?)
        if ∀ point ∈ best, deployment.similarityThreshold ≤ deployment.score vector point.vector then
          some { state with
            loaded := Function.update state.loaded cache true
            searches := ⟨provider cache, points, best⟩ :: state.searches }
        else none

end step

end QdrantSemanticCache

end LlmopsGateway
