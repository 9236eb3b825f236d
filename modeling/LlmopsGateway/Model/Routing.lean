import LlmopsGateway.Model.ChatResponse
import LlmopsGateway.Model.PyJson

/-! # Provider selection and fallback

`ProviderRegistry` and `RoutingService`. A request is resolved to an ordered list of attempts,
each a provider with the model to send to it; the service makes one attempt after the other until
one succeeds, and only a `ProviderError` lets it go on. What a provider does with an attempt is a
parameter of `complete` and `stream`.
-/

namespace LlmopsGateway

open PyText

/-- A `ProviderError` of any class, with the attributes the gateway reads. -/
structure ProviderError where
  message : String
  retryable : Bool := true
  statusCode : Option ℤ := none
  retryAfterSeconds : Option ℚ := none
deriving DecidableEq

/-- The `ValueError`s routing raises itself. -/
inductive RoutingValueError
  | unregistered (name : String)
  | unparsable (value : String)
deriving DecidableEq

def RoutingValueError.message (isPrintable : Char → Bool) : RoutingValueError → List Char
  | .unregistered name => "No provider registered for ".toList ++ reprStr isPrintable name.toList
  | .unparsable value => "Expected 'provider:model', got ".toList ++ reprStr isPrintable value.toList

/-- An exception on its way to the caller. `exhausted` is `AllProvidersExhaustedError`, `overflow` the
`OverflowError` of a backoff delay; `library` is an exception of a library that is not handled where
it is called. -/
inductive Raised
  | provider (error : ProviderError)
  | exhausted (attempts : List (String × ProviderError))
  | value (error : RoutingValueError)
  | shape (error : ShapeError)
  | overflow
  | library
deriving DecidableEq

/-- What routing sees of an `LLMProvider`. -/
structure Provider where
  name : String
  supportsModel : String → Bool

/-- The providers in registration order, each stored under its own name. -/
structure ProviderRegistry where
  providers : List Provider
  nodup : (providers.map Provider.name).Nodup

/-- The default of `provider_model_fallback_map`. -/
def defaultFallbackMap (key : String) : Option String :=
  [("openai:gpt-4o", "anthropic:claude-3-5-sonnet-20241022"),
    ("openai:gpt-4o-mini", "anthropic:claude-3-5-haiku-20241022"),
    ("anthropic:claude-3-5-sonnet-20241022", "openai:gpt-4o"),
    ("anthropic:claude-3-5-haiku-20241022", "openai:gpt-4o-mini")].lookup key

/-- The two settings routing reads: the chain of names and the `provider:model` map. -/
structure RoutingSettings where
  providerFallbackChain : List String := ["openai", "anthropic"]
  providerModelFallbackMap : String → Option String := defaultFallbackMap

namespace ProviderRegistry

def tryGet (registry : ProviderRegistry) (name : String) : Option Provider :=
  registry.providers.find? (·.name = name)

def get (registry : ProviderRegistry) (name : String) : Except Raised Provider :=
  match registry.tryGet name with
  | some provider => .ok provider
  | none => .error (.value (.unregistered name))

def findSupporting (registry : ProviderRegistry) (model : String) : Option Provider :=
  registry.providers.find? (·.supportsModel model)

def resolveEquivalentModel (registry : ProviderRegistry) (settings : RoutingSettings)
    (model targetProvider : String) : Except Raised (Option String) :=
  match registry.findSupporting model with
  | none => .ok none
  | some source =>
    match settings.providerModelFallbackMap (ModelIdentifier.mk source.name model).str with
    | none => .ok none
    | some mapped =>
      match ModelIdentifier.parse? mapped with
      | none => .error (.value (.unparsable mapped))
      | some identifier =>
        .ok (if identifier.provider = targetProvider then some identifier.model else none)

end ProviderRegistry

/-- An attempt: the provider and the model sent to it. -/
abbrev Attempt := Provider × String

namespace RoutingService

variable (registry : ProviderRegistry) (settings : RoutingSettings)

/-- The native provider first, then the chain without repetitions. -/
def orderedNames (request : ChatRequest) : List String :=
  settings.providerFallbackChain.foldl (fun names name => if name ∈ names then names else names ++ [name])
    (registry.findSupporting request.model |>.map Provider.name).toList

/-- One round of the loop over the ordered names. -/
def attemptFor (request : ChatRequest) (name : String) : Except Raised (Option Attempt) :=
  match registry.tryGet name with
  | none => .ok none
  | some provider =>
    if provider.supportsModel request.model then .ok (some (provider, request.model))
    else
      match registry.resolveEquivalentModel settings request.model name with
      | .error error => .error error
      | .ok equivalent => .ok (equivalent.map fun model => (provider, model))

def attemptsFor (request : ChatRequest) : List String → Except Raised (List Attempt)
  | [] => .ok []
  | name :: rest =>
    match attemptFor registry settings request name with
    | .error error => .error error
    | .ok attempt =>
      match attemptsFor request rest with
      | .error error => .error error
      | .ok attempts => .ok (attempt.toList ++ attempts)

/-- `if request.provider_override:` an empty string pins nothing. -/
def pinned (request : ChatRequest) : Option String :=
  request.providerOverride.filter (· ≠ "")

def resolveAttempts (request : ChatRequest) : Except Raised (List Attempt) :=
  match pinned request with
  | some name =>
    match registry.get name with
    | .error error => .error error
    | .ok provider => .ok [(provider, request.model)]
  | none => attemptsFor registry settings request (orderedNames registry settings request)

def attemptRequest (request : ChatRequest) (model : String) : ChatRequest :=
  if model = request.model then request else { request with model }

@[simp] theorem attemptRequest_model (request : ChatRequest) (model : String) :
    (attemptRequest request model).model = model := by
  unfold attemptRequest
  split
  · rename_i same
    exact same.symm
  · rfl

section complete

variable (serve : Provider → ChatRequest → Except Raised ChatResponse)

/-- The loop of `complete`, with the errors so far. -/
def completeFrom (request : ChatRequest) :
    List (String × ProviderError) → List Attempt → Except Raised ChatResponse
  | errors, [] => .error (.exhausted errors)
  | errors, (provider, model) :: rest =>
    match serve provider (attemptRequest request model) with
    | .ok response => .ok response
    | .error (.provider error) => completeFrom request (errors ++ [(provider.name, error)]) rest
    | .error other => .error other

def complete (request : ChatRequest) : Except Raised ChatResponse :=
  match resolveAttempts registry settings request with
  | .error error => .error error
  | .ok attempts => completeFrom serve request [] attempts

end complete

/-- What one upstream stream delivers: chunks, and then its end or an exception. -/
structure StreamScript where
  chunks : List String
  raised : Option Raised := none

/-- What reading `stream` to its end delivers. `selection` is what `on_provider_selected` was called
with; `served`, the attempt that ran to its end, is history. -/
structure StreamRun where
  chunks : List String := []
  selection : Option (Provider × ChatRequest) := none
  served : Option (Provider × ChatRequest) := none
  outcome : Except Raised Unit

section stream

variable (script : Provider → ChatRequest → StreamScript)

/-- The callback comes with the first chunk. -/
def selected (provider : Provider) (request : ChatRequest) (chunks : List String) :
    Option (Provider × ChatRequest) :=
  if chunks = [] then none else some (provider, request)

/-- The loop of `stream`: an attempt that has yielded is not followed by another. -/
def streamFrom (request : ChatRequest) : List (String × ProviderError) → List Attempt → StreamRun
  | errors, [] => { outcome := .error (.exhausted errors) }
  | errors, (provider, model) :: rest =>
    let sent := attemptRequest request model
    let played := script provider sent
    match played.raised with
    | none =>
      { chunks := played.chunks
        selection := selected provider sent played.chunks
        served := some (provider, sent)
        outcome := .ok () }
    | some (.provider error) =>
      if played.chunks = [] then streamFrom request (errors ++ [(provider.name, error)]) rest
      else
        { chunks := played.chunks
          selection := selected provider sent played.chunks
          outcome := .error (.provider error) }
    | some other =>
      { chunks := played.chunks
        selection := selected provider sent played.chunks
        outcome := .error other }

def stream (request : ChatRequest) : StreamRun :=
  match resolveAttempts registry settings request with
  | .error error => { outcome := .error error }
  | .ok attempts => streamFrom script request [] attempts

end stream

end RoutingService

end LlmopsGateway
