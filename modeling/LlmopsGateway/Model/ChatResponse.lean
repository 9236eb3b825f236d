import LlmopsGateway.Model.ChatRequest
import Mathlib.Algebra.Order.Ring.Rat

/-! # Chat responses, models and prices

The provider-agnostic response, the `provider:model` identifier and the price of a completion.
Prices and costs are exact rationals; the pricing table, with its Redis cache and its database,
is a function from identifiers to the two prices per thousand tokens.
-/

namespace LlmopsGateway

structure TokenUsage where
  inputTokens : ℤ
  outputTokens : ℤ
deriving DecidableEq, Repr

inductive CacheStatus
  | miss
  | exactHit
  | semanticHit
  | bypassed
deriving DecidableEq, Repr

/-- `created_at` counts microseconds, `latency_ms` is exact. -/
structure ChatResponse where
  id : String
  model : String
  provider : String
  message : ChatMessage
  usage : TokenUsage
  costUsd : ℚ
  cacheStatus : CacheStatus := .miss
  traceId : String
  createdAt : ℕ
  latencyMs : ℚ
  adapterId : Option String := none
  modelAlias : Option String := none
  adapterStage : Option String := none
deriving DecidableEq

structure ModelIdentifier where
  provider : String
  model : String
deriving DecidableEq, Repr

namespace ModelIdentifier

/-- `f"{provider}:{model}"`. -/
def str (identifier : ModelIdentifier) : String :=
  identifier.provider ++ ":" ++ identifier.model

/-- `parse`, with `none` for its `ValueError`: cut at the first colon, the model not empty. -/
def parse? (value : String) : Option ModelIdentifier :=
  let provider := value.toList.takeWhile (· ≠ ':')
  match (value.toList.dropWhile (· ≠ ':')).tail with
  | [] => none
  | model => some ⟨String.ofList provider, String.ofList model⟩

end ModelIdentifier

/-- The price lookup of `CostService`: input and output price per thousand tokens. -/
abbrev Pricing := ModelIdentifier → Option (ℚ × ℚ)

/-- `CostService.calculate_cost_usd`. -/
def calculateCostUsd (pricing : Pricing) (model : ModelIdentifier) (usage : TokenUsage) : ℚ :=
  match pricing model with
  | none => 0
  | some (inputPricePer1k, outputPricePer1k) =>
    usage.inputTokens / 1000 * inputPricePer1k + usage.outputTokens / 1000 * outputPricePer1k

end LlmopsGateway
