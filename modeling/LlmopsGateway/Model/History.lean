import LlmopsGateway.Model.CacheLayer
import LlmopsGateway.Model.Gateway

/-! # Histories of requests

The handlers in front of the cache layer. What a handler takes from `CacheService` are results of calls of
its tenant to the cache layer, and the backfills it schedules are the only ones that begin: in the process
or in a worker, at any later time, any number of times. A handler is one step, when it returns.
-/

namespace LlmopsGateway

open Machine

namespace RoutingService

/-- The provider whose answer `completeFrom` returns. -/
def serverFrom (serve : Provider → ChatRequest → Except Raised ChatResponse) (request : ChatRequest) :
    List Attempt → Option Provider
  | [] => none
  | (provider, model) :: rest =>
    match serve provider (attemptRequest request model) with
    | .ok _ => some provider
    | .error (.provider _) => serverFrom serve request rest
    | .error _ => none

/-- The provider whose answer `complete` returns. -/
def server (registry : ProviderRegistry) (settings : RoutingSettings)
    (serve : Provider → ChatRequest → Except Raised ChatResponse) (request : ChatRequest) : Option Provider :=
  match resolveAttempts registry settings request with
  | .error _ => none
  | .ok attempts => serverFrom serve request attempts

end RoutingService

/-- A task of `_schedule_backfill`, with the request it comes from. -/
structure Job where
  visit : Visit
  request : ChatRequest
  response : ChatResponse

def Job.tenantId (job : Job) : String := job.visit.env.tenantId

namespace Visit

variable (visit : Visit)

/-- The request behind the adapter route. -/
def routed : ChatRequest := GatewayService.applyAdapterRoute visit.env visit.request

/-- The provider whose upstream call runs to its end, should the request go upstream. -/
def producer : Option String :=
  if visit.request.stream then
    (RoutingService.stream visit.env.registry visit.env.settings visit.env.stream
      visit.routed).served.map (·.1.name)
  else
    (RoutingService.server visit.env.registry visit.env.settings visit.env.complete visit.routed).map (·.name)

/-- The tasks that the handler schedules. -/
def jobs (pricing : Pricing) : List Job :=
  (visit.handle pricing).events.filterMap fun
    | .backfilled request response => some ⟨visit, request, response⟩
    | _ => none

end Visit

namespace History

variable {κ ν : Type} [DecidableEq κ]

/-- A request with the names of its calls to the cache layer. -/
structure Arrival (κ : Type) where
  visit : Visit
  lookup : κ
  acquire : κ
  wait : κ

namespace Arrival

variable (arrival : Arrival κ)

def tenantId : String := arrival.visit.env.tenantId

/-- The handler's answers from the cache service are results of its calls. -/
def answered (cache : CacheLayer.State κ ν) : Bool :=
  let env := arrival.visit.env
  let routed := arrival.visit.routed
  match (CacheService.lookup env routed).outcome with
  | .error _ => false
  | .ok (hit, status) =>
    cache.results ⟨arrival.tenantId, arrival.lookup⟩ = some (.looked routed hit status) &&
      (status ≠ .miss || arrival.visit.request.stream ||
        cache.results ⟨arrival.tenantId, arrival.acquire⟩ = some (.acquired routed env.lockAcquired) &&
          (env.lockAcquired ||
            cache.results ⟨arrival.tenantId, arrival.wait⟩ = some (.waited routed env.coalesced)))

end Arrival

/-- `jobs` and `handled`, the lookups whose handlers have returned, are history. -/
structure State (κ ν : Type) where
  cache : CacheLayer.State κ ν := {}
  jobs : List Job := []
  handled : List (CacheLayer.Caller κ) := []

inductive Label (κ : Type)
  | cache (label : CacheLayer.Label κ)
  | handle (arrival : Arrival κ)

/-- A backfill is one that was scheduled. -/
def scheduled (jobs : List Job) : CacheLayer.Label κ → Bool
  | .start caller (.backfill request response) =>
    jobs.any fun job => job.tenantId = caller.tenantId && job.request = request && job.response = response
  | _ => true

def step (pricing : Pricing) (deployment : CacheLayer.Deployment ν) (state : State κ ν) :
    Label κ → Option (State κ ν)
  | .cache label =>
    if scheduled state.jobs label then
      match CacheLayer.step deployment state.cache label with
      | none => none
      | some cache => some { state with cache }
    else none
  | .handle arrival =>
    if ⟨arrival.tenantId, arrival.lookup⟩ ∉ state.handled ∧ arrival.answered state.cache = true then
      some { state with
        jobs := state.jobs ++ arrival.visit.jobs pricing
        handled := state.handled ++ [⟨arrival.tenantId, arrival.lookup⟩] }
    else none

end History

end LlmopsGateway
