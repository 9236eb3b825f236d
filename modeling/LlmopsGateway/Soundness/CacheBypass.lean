import LlmopsGateway.Machine.Run
import LlmopsGateway.Model.BackgroundJobs
import LlmopsGateway.Model.History
import LlmopsGateway.Soundness.Attribution
import LlmopsGateway.Soundness.CacheCommands

/-! # Requests that bypass the cache

A bypassed request asks the cache service for nothing but a lookup, which sends no command, and hands over no
backfill. So it goes the same way whatever the stores hold, and leaves them as they are.
-/

namespace LlmopsGateway

open Machine

/-- The answers of the cache service that an environment gives. -/
structure CacheAnswers where
  exactGet : ChatRequest → Option ChatResponse
  semanticGet : ChatRequest → Option ChatResponse
  lockAcquired : Bool
  coalesced : Option ChatResponse

/-- The environment with other answers of the cache service. -/
def Environment.withCache (env : Environment) (answers : CacheAnswers) : Environment :=
  { env with
    exactGet := answers.exactGet
    semanticGet := answers.semanticGet
    lockAcquired := answers.lockAcquired
    coalesced := answers.coalesced }

/-- What a handler's event asks of the cache service. The loser of the lock waits. -/
def Event.operations (routed : ChatRequest) : Event → List CacheLayer.Operation
  | .lockTried true => [.acquire routed]
  | .lockTried false => [.acquire routed, .wait routed]
  | .lockReleased => [.release routed]
  | .backfilled request response => [.backfill request response]
  | _ => []

/-- The task that an event hands over. -/
def Event.task : Event → Option BackgroundJobs.Task
  | .backfilled .. => some .backfill
  | .finalized _ => some .finalized
  | _ => none

namespace Visit

variable (pricing : Pricing) (visit : Visit)

/-- The operations of the cache service that a request starts, those of its background tasks included. -/
def operations : List CacheLayer.Operation :=
  .lookup visit.routed :: (visit.handle pricing).events.flatMap (Event.operations visit.routed)

/-- The work that a request hands over to run in the background. -/
def works : List BackgroundJobs.Work :=
  ((visit.handle pricing).events.filterMap Event.task).flatMap BackgroundJobs.Task.works

end Visit

namespace GatewayService

variable {pricing : Pricing} {env : Environment} {request : ChatRequest}

theorem lookup_of_bypass (bypass : request.cacheBypass = true) :
    CacheService.lookup env request = ⟨[], .ok (none, .bypassed)⟩ := if_pos bypass

/-- A bypassed completion goes upstream without a lock. -/
theorem handleChatCompletion_of_bypass (bypass : request.cacheBypass = true) :
    handleChatCompletion pricing env request =
      completeUpstream pricing env (applyAdapterRoute env request) .bypassed false := by
  have routed := (cacheBypass_applyAdapterRoute env request).trans bypass
  simp only [handleChatCompletion, lookup_of_bypass routed, Logged.bind_ok, if_pos, List.nil_append]

/-- A bypassed stream ends with its last chunk. -/
theorem handleChatCompletionStream_of_bypass (bypass : request.cacheBypass = true) :
    handleChatCompletionStream pricing env request = do
      let _ ← routeStream env (applyAdapterRoute env request)
      return () := by
  have routed := (cacheBypass_applyAdapterRoute env request).trans bypass
  simp only [handleChatCompletionStream, lookup_of_bypass routed, Logged.bind_ok, if_pos, List.nil_append]

/-- The events that neither ask the cache service for anything nor hand over a backfill. -/
def Quiet : Event → Prop
  | .completed .. | .priced .. | .yielded _ | .finalized _ => True
  | .promoted .. | .lockTried _ | .lockReleased | .backfilled .. => False

theorem quiet_completeUpstream (request : ChatRequest) :
    ∀ event ∈ (completeUpstream pricing env request .bypassed false).events, Quiet event := by
  rw [completeUpstream, routeCompletion]
  cases RoutingService.complete env.registry env.settings env.complete request with
  | error error =>
    intro event member
    cases member
  | ok response =>
    intro event member
    simp only [Logged.log, Logged.ensuring, price, respond, finalize, Logged.pure_eq, Logged.bind_ok,
      List.append_nil,
      List.nil_append, ne_eq, not_true_eq_false, if_false, Bool.false_eq_true, List.cons_append, List.mem_cons,
      List.not_mem_nil, or_false] at member
    rcases member with rfl | rfl | rfl <;> trivial

theorem quiet_routeStream (request : ChatRequest) :
    ∀ event ∈ (routeStream env request).events, Quiet event := by
  intro event member
  rcases List.mem_append.mp member with chunk | served
  · obtain ⟨text, -, rfl⟩ := List.mem_map.mp chunk
    trivial
  · obtain ⟨⟨provider, sent⟩, -, rfl⟩ := Option.map_eq_some_iff.mp (Option.mem_toList.mp served)
    trivial

end GatewayService

namespace Visit

variable {visit : Visit}

theorem quiet_handle (pricing : Pricing) (bypass : visit.request.cacheBypass = true) :
    ∀ event ∈ (visit.handle pricing).events, GatewayService.Quiet event := by
  rw [handle]
  split
  · rw [GatewayService.handleChatCompletionStream_of_bypass bypass, Logged.events_discard]
    exact GatewayService.quiet_routeStream _
  · rw [GatewayService.handleChatCompletion_of_bypass bypass, Logged.events_discard]
    exact GatewayService.quiet_completeUpstream _

theorem operations_of_quiet (routed : ChatRequest) {event : Event} (quiet : GatewayService.Quiet event) :
    event.operations routed = [] := by
  cases event <;> first | rfl | exact quiet.elim

/-- A lookup is all that a bypassed request asks for. -/
theorem operations_of_bypass (pricing : Pricing) (bypass : visit.request.cacheBypass = true) :
    visit.operations pricing = [.lookup visit.routed] := by
  rw [operations, List.flatMap_eq_nil_iff.mpr fun event member =>
    operations_of_quiet visit.routed (visit.quiet_handle pricing bypass event member)]

theorem works_of_bypass (pricing : Pricing) (bypass : visit.request.cacheBypass = true) :
    BackgroundJobs.Work.backfillCache ∉ visit.works pricing := by
  intro member
  obtain ⟨task, handed, work⟩ := List.mem_flatMap.mp member
  obtain ⟨event, logged, task'⟩ := List.mem_filterMap.mp handed
  have quiet := visit.quiet_handle pricing bypass event logged
  cases event with
  | finalized entry =>
    obtain rfl := Option.some.inj task'
    exact absurd work (by decide)
  | backfilled request response => exact quiet.elim
  | promoted | lockTried | lockReleased | completed | priced | yielded => cases task'

end Visit

namespace CacheLayer

variable {κ ν : Type} [DecidableEq κ] (deployment : Deployment ν) (mine : Caller κ → Prop)

/-- The step is of one of these callers. -/
def Label.Of : Label κ → Prop
  | .tick _ => False
  | .start caller _ => mine caller
  | .call caller _ _ => mine caller

/-- These callers begin no operations but the given ones. -/
def Starts (operations : List Operation) : Label κ → Prop
  | .start caller operation => mine caller → operation ∈ operations
  | _ => True

/-- A step of these callers sends no command, and what there is in the stores stays as it is. -/
def LeavesStores (state : State κ ν) (label : Label κ) : Prop :=
  label.Of mine → ∀ next, step deployment state label = some next →
    (∃ caller operation, label = .start caller operation) ∧ next.redis = state.redis ∧
      next.points = state.points

/-- None of these callers is within an operation. -/
def Resting (state : State κ ν) : Prop :=
  ∀ caller, mine caller → state.calls caller = .idle ∨ state.calls caller = .done

variable {deployment mine} {state next : State κ ν} {label : Label κ} {request : ChatRequest}

theorem calls_proceed (state : State κ ν) (caller : Caller κ) (effect : Effect ν) :
    (state.proceed caller effect).calls = Function.update state.calls caller effect.phase := rfl

omit [DecidableEq κ] in
theorem perform_resting {phase : Phase} (resting : phase = .idle ∨ phase = .done) (tenantId : String)
    (store : Store)
    (reply : Coalescing.Reply) : perform deployment state tenantId phase store reply = none := by
  rcases resting with rfl | rfl <;> rfl

theorem Resting.leavesStores (resting : Resting mine state) (bypass : request.cacheBypass = true)
    (starts : Starts mine [.lookup request] label) : LeavesStores deployment mine state label := by
  intro own next stepped
  cases label with
  | tick ms => exact own.elim
  | start caller operation =>
    obtain rfl := List.mem_singleton.mp (starts own)
    refine ⟨⟨caller, _, rfl⟩, ?_⟩
    simp only [step, begin, bypass, if_true] at stepped
    split at stepped
    · obtain rfl := Option.some.inj stepped
      exact ⟨rfl, rfl⟩
    · cases stepped
  | call caller store reply =>
    simp only [step, perform_resting (resting caller own)] at stepped
    cases stepped

/-- A call that goes on leaves the others where they are. -/
theorem Resting.proceed (resting : Resting mine state) {caller : Caller κ} {effect : Effect ν}
    (own : mine caller → effect.phase = .done) : Resting mine (state.proceed caller effect) := by
  intro other among
  rw [calls_proceed]
  by_cases same : other = caller
  · subst same
    rw [Function.update_self]
    exact .inr (own among)
  · rw [Function.update_of_ne same]
    exact resting other among

theorem Resting.step (resting : Resting mine state) (bypass : request.cacheBypass = true)
    (starts : Starts mine [.lookup request] label) (stepped : step deployment state label = some next) :
    Resting mine next := by
  cases label with
  | tick ms =>
    obtain rfl := Option.some.inj stepped
    exact resting
  | start caller operation =>
    simp only [CacheLayer.step] at stepped
    split at stepped
    · obtain rfl := Option.some.inj stepped
      refine resting.proceed fun own => ?_
      obtain rfl := List.mem_singleton.mp (starts own)
      simp only [begin, bypass, if_true]
    · cases stepped
  | call caller store reply =>
    simp only [CacheLayer.step] at stepped
    split at stepped
    · cases stepped
    · rename_i effect performed
      obtain rfl := Option.some.inj stepped
      refine resting.proceed fun own => ?_
      rw [perform_resting (resting caller own)] at performed
      cases performed

end CacheLayer

/-- A request that bypasses the cache is answered the same whatever the cache service would say, and no step
of its operations, those of its background tasks included, reads or changes a store, whatever other calls do
in between. -/
theorem bypass_invisible {κ ν : Type} [DecidableEq κ] (pricing : Pricing) (deployment : CacheLayer.Deployment ν)
    (visit : Visit) (bypass : visit.request.cacheBypass = true) :
    (∀ answers, GatewayService.handleChatCompletion pricing (visit.env.withCache answers) visit.request =
        GatewayService.handleChatCompletion pricing visit.env visit.request) ∧
      (∀ answers, GatewayService.handleChatCompletionStream pricing
        (visit.env.withCache answers) visit.request =
        GatewayService.handleChatCompletionStream pricing visit.env visit.request) ∧
      BackgroundJobs.Work.backfillCache ∉ visit.works pricing ∧
      ∀ (mine : CacheLayer.Caller κ → Prop) (state : CacheLayer.State κ ν) (labels : List (CacheLayer.Label κ)),
        (∀ caller, mine caller → state.calls caller = .idle) →
        (∀ label ∈ labels, CacheLayer.Starts mine (visit.operations pricing) label) →
          Along (CacheLayer.step deployment) (CacheLayer.LeavesStores deployment mine) state labels := by
  refine ⟨fun answers => ?_, fun answers => ?_, visit.works_of_bypass pricing bypass,
    fun mine state labels idle starts => ?_⟩
  · rw [GatewayService.handleChatCompletion_of_bypass bypass,
      GatewayService.handleChatCompletion_of_bypass bypass]
    rfl
  · rw [GatewayService.handleChatCompletionStream_of_bypass bypass,
      GatewayService.handleChatCompletionStream_of_bypass bypass]
    rfl
  · rw [visit.operations_of_bypass pricing bypass] at starts
    have routed : visit.routed.cacheBypass = true :=
      (GatewayService.cacheBypass_applyAdapterRoute visit.env visit.request).trans bypass
    have resting : CacheLayer.Resting mine state := fun caller own => .inl (idle caller own)
    clear idle
    induction labels generalizing state with
    | nil => trivial
    | cons label rest ih =>
      obtain ⟨here, later⟩ := List.forall_mem_cons.mp starts
      exact ⟨resting.leavesStores routed here, fun next stepped =>
        ih next later (resting.step routed here stepped)⟩

/-- A bypassed request to providers that answer. -/
def bypassedVisit : Visit where
  env := GatewayService.outageEnv false
  request := { model := "gpt-4o", messages := [⟨.user, "hi"⟩], cacheBypass := true }

theorem bypass_invisible_sample : BackgroundJobs.Work.backfillCache ∉ bypassedVisit.works (fun _ => none) ∧
    Along (CacheLayer.step CacheLayer.sampleDeployment)
      (CacheLayer.LeavesStores CacheLayer.sampleDeployment fun caller => caller.id = 0) {}
      [.start ⟨"tenant", 0⟩ (.lookup bypassedVisit.routed), .tick 5] := by
  obtain ⟨-, -, works, leaves⟩ :=
    @bypass_invisible ℕ (ℚ × ℚ) _ (fun _ => none) CacheLayer.sampleDeployment bypassedVisit rfl
  refine ⟨works, leaves (fun caller => caller.id = 0) {} _ (fun _ _ => rfl) ?_⟩
  intro label member
  rcases List.mem_cons.mp member with rfl | member
  · exact fun _ => List.mem_cons_self ..
  · obtain rfl := List.mem_singleton.mp member
    trivial

end LlmopsGateway
