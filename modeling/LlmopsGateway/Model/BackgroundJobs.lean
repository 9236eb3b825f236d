import Mathlib.Data.Nat.Notation
import Mathlib.Logic.Function.Basic

/-! # Handing over background work

`GatewayService._finalize` and `_schedule_backfill` hand their work to `BackgroundJobService`, which
enqueues it to the arq pool or starts it in-process. Any number of these calls interleave between their
enqueues; the outcome of an `enqueue_job` comes with the label, and one that raises has accepted nothing.
-/

namespace LlmopsGateway.BackgroundJobs

/-- What a job does, named after its arq function. -/
inductive Work
  | persistTrace
  | exportOtelSpans
  | backfillCache
deriving DecidableEq, Repr

/-- A finalized request, or a response to be cached. -/
inductive Task
  | finalized
  | backfill
deriving DecidableEq, Repr

def Task.works : Task → List Work
  | finalized => [.persistTrace, .exportOtelSpans]
  | backfill => [.backfillCache]

inductive Destination
  | pool
  | inProcess
deriving DecidableEq, Repr

/-- Work that was accepted by the pool or started in-process. -/
structure Scheduled where
  id : ℕ
  work : Work
  destination : Destination
deriving DecidableEq, Repr

/-- The next enqueue of a task. -/
inductive Phase
  | idle
  | enqueuePersist
  | enqueueExport
  | enqueueBackfill
  | ended (task : Task)
deriving DecidableEq, Repr

structure BackgroundJobService where
  useArqWorkers : Bool := true
deriving DecidableEq, Repr

/-- `pooled` is whether `_pool` is set; the ledger grows at its head. -/
structure State where
  pooled : Bool := false
  phases : ℕ → Phase := fun _ => .idle
  ledger : List Scheduled := []

inductive Label
  | connect
  | close
  | finalize (id : ℕ)
  | scheduleBackfill (id : ℕ)
  | enqueue (id : ℕ) (accepted : Bool)
deriving DecidableEq, Repr

namespace State

def goto (state : State) (id : ℕ) (next : Phase) : State :=
  { state with phases := Function.update state.phases id next }

def schedule (state : State) (id : ℕ) (work : Work) (destination : Destination) : State :=
  { state with ledger := ⟨id, work, destination⟩ :: state.ledger }

@[simp] theorem phases_goto_self (state : State) (id : ℕ) (next : Phase) :
    (state.goto id next).phases id = next :=
  Function.update_self ..

theorem phases_goto_of_ne (state : State) {id other : ℕ} (next : Phase) (different : other ≠ id) :
    (state.goto id next).phases other = state.phases other :=
  Function.update_of_ne different ..

end State

/-- `_try_enqueue`, with whether `enqueue_job` would accept the job. -/
def BackgroundJobService.tryEnqueue (service : BackgroundJobService) (state : State) (accepted : Bool) : Bool :=
  service.useArqWorkers && state.pooled && accepted

/-- The fallback of `run_trace_flush`, and `TracingService.flush`. -/
def State.flush (state : State) (id : ℕ) : State :=
  (state.schedule id .persistTrace .inProcess).schedule id .exportOtelSpans .inProcess

/-- One step; without a `BackgroundJobService` the work is started where it arises. -/
def step (service? : Option BackgroundJobService) (state : State) : Label → Option State
  | .connect => service?.map fun service => { state with pooled := service.useArqWorkers }
  | .close => some { state with pooled := false }
  | .finalize id =>
    match state.phases id, service? with
    | .idle, none => some ((state.flush id).goto id (.ended .finalized))
    | .idle, some _ => some (state.goto id .enqueuePersist)
    | _, _ => none
  | .scheduleBackfill id =>
    match state.phases id, service? with
    | .idle, none => some ((state.schedule id .backfillCache .inProcess).goto id (.ended .backfill))
    | .idle, some _ => some (state.goto id .enqueueBackfill)
    | _, _ => none
  | .enqueue id accepted =>
    match state.phases id, service? with
    | .enqueuePersist, some service =>
      some (if service.tryEnqueue state accepted then
          (state.schedule id .persistTrace .pool).goto id .enqueueExport
        else (state.flush id).goto id (.ended .finalized))
    -- the answer of the second enqueue is not looked at
    | .enqueueExport, some service =>
      some (if service.tryEnqueue state accepted then
          (state.schedule id .exportOtelSpans .pool).goto id (.ended .finalized)
        else state.goto id (.ended .finalized))
    | .enqueueBackfill, some service =>
      some (if service.tryEnqueue state accepted then
          (state.schedule id .backfillCache .pool).goto id (.ended .backfill)
        else (state.schedule id .backfillCache .inProcess).goto id (.ended .backfill))
    | _, _ => none

end LlmopsGateway.BackgroundJobs
