import LlmopsGateway.Model.ChatEndpoint
import Mathlib.Data.Rat.Floor

/-! # From completions to the books

Requests are handled one after another, streams read to their end. Their trace jobs are kept by the queue, which
delivers each any number of times and in any order; a delivery that is interrupted or raises is rolled back.
Deliveries do not overlap. A negative cost makes the counter of the metrics raise before a job is made, and a
header that is not Latin-1 makes the endpoint raise behind it.
-/

namespace LlmopsGateway

def Event.metadata? : Event → Option ChatResponse
  | .yielded (.metadata response) => some response
  | _ => none

section requests

variable (costText : ChatEndpoint.CostText) (pricing : Pricing) (visit : Visit)

/-- The endpoint can put a plain response into its headers. -/
def tellable (request : ChatRequest) (response : ChatResponse) : Bool :=
  request.stream || (ChatEndpoint.completionHeaders costText response).isSome

/-- What a caller is told of its request: the body of the response, or the metadata of the stream. -/
def Visit.told : List ChatResponse :=
  if visit.request.stream then (visit.handle pricing).events.filterMap Event.metadata?
  else (GatewayService.handleChatCompletion pricing visit.env visit.request).outcome.toOption.toList.filter
    fun response => 0 ≤ response.costUsd && tellable costText visit.request response

/-- The trace jobs of a request with these spans. -/
def Visit.traceJobs (spans : List TraceSpan) : List TraceJob :=
  ((auditEntries (visit.handle pricing).events).filter fun entry => 0 ≤ entry.response.costUsd).map
    fun entry => entry.traceJob visit.env.traceId spans

end requests

/-- `Numeric(12, 6)` keeps six digits behind the point; a half goes away from zero. -/
def Schema.rounded (value : ℚ) : ℚ :=
  let magnitude : ℚ := ⌊10 ^ 6 * |value| + 1 / 2⌋ / 10 ^ 6
  if value < 0 then -magnitude else magnitude

namespace Bookkeeping

/-- `told` and `returned` are history: what callers were told under which trace id, and the jobs of which a
delivery has returned. -/
structure State where
  database : Database
  jobs : List TraceJob := []
  told : List (String × ChatResponse) := []
  returned : List TraceJob := []

inductive Label
  | request (visit : Visit) (spans : List TraceSpan)
  | deliver (index : ℕ) (rowId : Uuid) (interrupted : Bool)

variable (costText : ChatEndpoint.CostText) (pricing : Pricing) (decimal : Char → Option (Fin 10))

def step (state : State) : Label → Option State
  | .request visit spans =>
    some { state with
      jobs := state.jobs ++ visit.traceJobs pricing spans
      told := state.told ++ (visit.told costText pricing).map fun response => (visit.env.traceId, response) }
  | .deliver index rowId interrupted =>
    match state.jobs[index]? with
    | none => none
    | some job =>
      if interrupted then some state
      else
        match TracePersistence.persist decimal state.database job rowId with
        | none => some state
        | some database => some { state with database, returned := job :: state.returned }

end Bookkeeping

end LlmopsGateway
