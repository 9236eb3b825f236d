import LlmopsGateway.Model.ChatResponse
import Mathlib.Logic.Function.Basic

/-! # Looking up prices

`CostService._get_pricing` over the `model_pricing` table and its Redis cache. A lookup reads the
cache, then the table, then writes the cache; the statements of any number of lookups interleave, time
passes between them, the table may change, and each statement may fail on its own. Times count
microseconds. Python's floats enter through their texts, so how they are converted and read stays a
parameter.
-/

namespace LlmopsGateway

open PyText

structure ModelPricingModel where
  provider : String
  modelName : String
  inputPricePer1k : ℚ
  outputPricePer1k : ℚ
  effectiveFrom : ℕ
  effectiveTo : Option ℕ := none
deriving DecidableEq

namespace ModelPricingModel

def covers (row : ModelPricingModel) (time : ℕ) : Bool :=
  row.effectiveFrom ≤ time && row.effectiveTo.all (time < ·)

end ModelPricingModel

namespace PricingRepository

/-- The rows of a model whose windows cover a time. -/
def covering (table : List ModelPricingModel) (provider model : String) (time : ℕ) : List ModelPricingModel :=
  table.filter fun row => row.provider = provider && row.modelName = model && row.covers time

/-- What `get_active_price` may return: one of the rows with the latest start, and the database picks
among several. -/
def ActivePrice (table : List ModelPricingModel) (provider model : String) (time : ℕ) :
    Option ModelPricingModel → Prop
  | none => covering table provider model time = []
  | some row => row ∈ covering table provider model time ∧
      ∀ other ∈ covering table provider model time, other.effectiveFrom ≤ row.effectiveFrom

instance (table : List ModelPricingModel) (provider model : String) (time : ℕ)
    (record : Option ModelPricingModel) :
    Decidable (ActivePrice table provider model time record) :=
  match record with
  | none => inferInstanceAs (Decidable (covering table provider model time = []))
  | some row => inferInstanceAs (Decidable (row ∈ covering table provider model time ∧
      ∀ other ∈ covering table provider model time, other.effectiveFrom ≤ row.effectiveFrom))

end PricingRepository

/-- `float(decimal)`, `float(text)` and the number a float stands for. -/
structure Floats where
  ofDecimal : ℚ → PyFloat
  parse : String → Option PyFloat
  value : PyFloat → ℚ

namespace CostService

/-- Input and output price per thousand tokens. -/
abbrev Prices := PyFloat × PyFloat

def noPriceSentinel : String := "NONE"

def cacheKey (model : ModelIdentifier) : String := "pricing:" ++ model.str

def encodePricing (pricing : Prices) : String := pricing.1.text ++ "," ++ pricing.2.text

variable (floats : Floats)

/-- `_decode_pricing`, with `none` for its `ValueError`. -/
def decodePricing (raw : String) : Option Prices := do
  let input ← floats.parse (String.ofList (raw.toList.takeWhile (· ≠ ',')))
  let output ← floats.parse (String.ofList (raw.toList.dropWhile (· ≠ ',')).tail)
  return (input, output)

/-- The value of a cache entry. -/
def readEntry (cached : String) : Option Prices :=
  if cached = noPriceSentinel then none else decodePricing floats cached

def cacheValue : Option Prices → String
  | none => noPriceSentinel
  | some pricing => encodePricing pricing

def pricesOf (record : ModelPricingModel) : Prices :=
  (floats.ofDecimal record.inputPricePer1k, floats.ofDecimal record.outputPricePer1k)

/-- What `_load_from_database` found; whether it failed is history, its caller only sees `pricing`. -/
inductive Loaded
  | failed
  | found (pricing : Option Prices)
deriving DecidableEq

def Loaded.pricing : Loaded → Option Prices
  | failed => none
  | found pricing => pricing

/-- `calculate_cost_usd`, after the lookup. -/
def costUsd (model : ModelIdentifier) (pricing : Option Prices) (usage : TokenUsage) : ℚ :=
  calculateCostUsd (fun _ => pricing.map fun (input, output) =>
    (floats.value input, floats.value output)) model usage

/-- Where a lookup stands. When it started and when it queried the table are history. -/
inductive Phase
  | idle
  | loading (model : ModelIdentifier) (startedAt : ℕ)
  | caching (model : ModelIdentifier) (startedAt queriedAt : ℕ) (loaded : Loaded)
  | returned (model : ModelIdentifier) (startedAt : ℕ) (pricing : Option Prices)
deriving DecidableEq

structure Entry where
  value : String
  deadline : ℕ
deriving DecidableEq

/-- A query of the table that succeeded. -/
structure Query where
  model : ModelIdentifier
  time : ℕ
  found : Option Prices

/-- `queries` is history. -/
structure State where
  now : ℕ := 0
  table : List ModelPricingModel
  redis : String → Option Entry := fun _ => none
  lookups : ℕ → Phase := fun _ => .idle
  queries : List Query := []

inductive Label
  | get (id : ℕ) (model : ModelIdentifier) (answered : Bool)
  | query (id : ℕ) (record : Option ModelPricingModel)
  | queryFails (id : ℕ)
  | set (id : ℕ) (stored : Bool)
  | tick (elapsed : ℕ)
  | evict (key : String)
  | changeTable (table : List ModelPricingModel)
deriving DecidableEq

namespace State

def goto (state : State) (id : ℕ) (phase : Phase) : State :=
  { state with lookups := Function.update state.lookups id phase }

/-- The entry of a key that has not expired. -/
def read (state : State) (key : String) : Option String :=
  (state.redis key).bind fun entry => if state.now < entry.deadline then some entry.value else none

end State

variable (ttlSeconds : ℕ)

/-- `SET` with `EX`; Redis refuses a lifetime of zero. -/
def State.write (state : State) (key value : String) : State :=
  if ttlSeconds = 0 then state
  else { state with redis := Function.update state.redis key (some ⟨value, state.now + 10 ^ 6 * ttlSeconds⟩) }

/-- One statement of a lookup, or a step of what surrounds it. A `GET` that is not answered and a `SET`
that is not stored raise a `RedisError`, which is suppressed, and so is the error of a stored `SET`. -/
def step (state : State) : Label → Option State
  | .get id model answered =>
    match state.lookups id with
    | .idle =>
      match if answered then state.read (cacheKey model) else none with
      | some cached => some (state.goto id (.returned model state.now (readEntry floats cached)))
      | none => some (state.goto id (.loading model state.now))
    | _ => none
  | .query id record =>
    match state.lookups id with
    | .loading model startedAt =>
      if PricingRepository.ActivePrice state.table model.provider model.model state.now record then
        let found := record.map (pricesOf floats)
        some ({ state with queries := ⟨model, state.now, found⟩ :: state.queries }.goto id
          (.caching model startedAt state.now (.found found)))
      else none
    | _ => none
  | .queryFails id =>
    match state.lookups id with
    | .loading model startedAt => some (state.goto id (.caching model startedAt state.now .failed))
    | _ => none
  | .set id stored =>
    match state.lookups id with
    | .caching model startedAt _ loaded =>
      let written :=
        if stored then state.write ttlSeconds (cacheKey model) (cacheValue loaded.pricing) else state
      some (written.goto id (.returned model startedAt loaded.pricing))
    | _ => none
  | .tick elapsed => some { state with now := state.now + elapsed }
  | .evict key => some { state with redis := Function.update state.redis key none }
  | .changeTable table => some { state with table }

end CostService

end LlmopsGateway
