import LlmopsGateway.Machine.OnceCell
import LlmopsGateway.Model.SemanticCollections

/-! # Loading the local embedding model

`LocalEmbeddingProvider` under any number of concurrent calls of `_ensure_model_loaded`, from `warm_up` or an
embedding. `_model` is a cell that is filled once; with it `_dimension` is overwritten. A call is abandoned by
the timeout around `embed`, whose thread then loads a model that nobody takes.
-/

namespace LlmopsGateway.LocalEmbeddingProvider

open Machine

/-- `_model` with `_load_lock` and the calls, and `_dimension`. -/
structure State (ι : Type) where
  load : OnceCell.State ι SentenceTransformer := {}
  dimension : ℕ

/-- A call begins, gets the lock, has its thread return with the model or an exception, or is cancelled. -/
inductive Label (ι : Type)
  | ensure (call : ι)
  | acquire (call : ι)
  | loaded (call : ι)
  | failed (call : ι)
  | cancel (call : ι)

variable {ι : Type} [DecidableEq ι] (transformer : String → SentenceTransformer) (modelName : String)

/-- The constructor. -/
def initial : State ι where
  dimension := (EmbeddingProvider.knownModelDimensions.lookup modelName).getD
    EmbeddingProvider.defaultDimensionFallback

/-- `SentenceTransformer(self._model_name)` gives the model of that name. -/
def Label.toOnce : Label ι → OnceCell.Label ι SentenceTransformer
  | .ensure call => .enter call
  | .acquire call => .acquire call
  | .loaded call => .finish call (some (transformer modelName))
  | .failed call => .finish call none
  | .cancel call => .cancel call

/-- A step of `_ensure_model_loaded`. -/
def step (state : State ι) (label : Label ι) : Option (State ι) :=
  (OnceCell.step state.load (label.toOnce transformer modelName)).map fun load =>
    match label with
    | .loaded _ => { load, dimension := (transformer modelName).dimension }
    | _ => { state with load }

/-- Threads that run `_load_model`. -/
def loads (state : State ι) (label : Label ι) : ℕ :=
  OnceCell.beginning state.load (label.toOnce transformer modelName)

/-- Threads that raise, or whose call is cancelled before they return. -/
def lost (state : State ι) (label : Label ι) : ℕ :=
  OnceCell.lost state.load (label.toOnce transformer modelName)

end LlmopsGateway.LocalEmbeddingProvider
