import LlmopsGateway.Machine.Outbox
import LlmopsGateway.Machine.Run
import LlmopsGateway.Model.Bookkeeping
import LlmopsGateway.Soundness.AuditTrail
import LlmopsGateway.Soundness.ResponseContract
import Mathlib.Tactic.Linarith
import Mathlib.Tactic.Ring

/-! # The books are what the callers were told

The handlers record the response that they hand out, so the trace jobs are those of the responses told. The
tables take one job for each trace id, whatever is delivered twice or interrupted, with its usage and its
cost. When no trace id was used twice and all jobs have come back, the books sum to what the callers were told.
-/

namespace LlmopsGateway

open Machine

section told

variable {pricing : Pricing}

theorem metadata_chunks (chunks : List String) :
    (chunks.map fun text => Event.yielded (.chunk text)).filterMap Event.metadata? = [] := by
  rw [List.filterMap_map]
  exact List.filterMap_eq_nil_iff.mpr fun text _ => rfl

theorem GatewayService.streamed_told (pricing : Pricing) (env : Environment) (request : ChatRequest) :
    (handleChatCompletionStream pricing env request).events.filterMap Event.metadata? =
      (auditEntries (handleChatCompletionStream pricing env request).events).map (·.response) := by
  have exits := streamExit pricing env request
  generalize handleChatCompletionStream pricing env request = handled at exits ⊢
  cases exits with
  | @hit hit status events looked written =>
    have unseen : events.filterMap Event.metadata? = [] ∧ auditEntries events = [] := by
      constructor
      · refine List.filterMap_eq_nil_iff.mpr fun event member => ?_
        rw [written event member]
        rfl
      · refine auditEntries_eq_nil fun event member => ?_
        rw [written event member]
        rfl
    rw [auditEntries_append, auditEntries_append, unseen.2, List.filterMap_append,
      List.filterMap_append, unseen.1]
    rfl
  | bypassed looked streams =>
    rw [auditEntries_append, auditEntries_eq_nil (isFinalized_chunks _), List.filterMap_append,
      metadata_chunks]
    rfl
  | missed looked streams =>
    rw [auditEntries_append, auditEntries_eq_nil (isFinalized_chunks _), List.filterMap_append,
      metadata_chunks]
    rfl
  | failed cut =>
    have unseen (event : Event) (cut : (∃ text, event = .yielded (.chunk text)) ∨
        ∃ model usage, event = .completed model usage) : event.metadata? = none ∧
          event.isFinalized = false := by
      rcases cut with ⟨text, rfl⟩ | ⟨model, usage, rfl⟩ <;> exact ⟨rfl, rfl⟩
    rw [List.filterMap_eq_nil_iff.mpr fun event member => (unseen event (cut event member)).1,
      auditEntries_eq_nil fun event member => (unseen event (cut event member)).2]
    rfl

/-- What a caller is told is what is recorded, up to negative costs and to what the endpoint cannot tell. -/
theorem Visit.told_eq (costText : ChatEndpoint.CostText) (pricing : Pricing) (visit : Visit) :
    (visit.told costText pricing).filter (fun response => 0 ≤ response.costUsd) =
      ((auditEntries (visit.handle pricing).events).filter fun entry => 0 ≤ entry.response.costUsd &&
        tellable costText entry.request entry.response).map (·.response) := by
  have requests (entry : AuditEntry) (recorded : entry ∈ auditEntries (visit.handle pricing).events) :
      entry.request.stream = visit.request.stream := by
    rw [Visit.entry_request recorded, GatewayService.stream_applyAdapterRoute]
  unfold told
  by_cases stream : visit.request.stream = true
  · have handled : visit.handle pricing =
        GatewayService.handleChatCompletionStream pricing visit.env visit.request := if_pos stream
    rw [if_pos stream, handled, GatewayService.streamed_told, List.filter_map, ← handled]
    refine congrArg (List.map _) (List.filter_congr fun entry recorded => ?_)
    rw [tellable, requests entry recorded, stream, Bool.true_or, Bool.and_true]
    rfl
  · have handled : (visit.handle pricing).events =
        (GatewayService.handleChatCompletion pricing visit.env visit.request).events := by
      rw [Visit.handle, if_neg stream, Logged.events_discard]
    rw [if_neg stream, List.filter_filter]
    cases ended : (GatewayService.handleChatCompletion pricing visit.env visit.request).outcome with
    | error error =>
      rw [handled, GatewayService.unrecorded_of_raised ended]
      rfl
    | ok result =>
      obtain ⟨entry, entries, rfl, -⟩ := GatewayService.recorded_of_returned ended
      have same := requests entry (by rw [handled, entries]; exact List.mem_singleton_self entry)
      have agree : tellable costText entry.request entry.response =
          tellable costText visit.request entry.response := by
        rw [tellable, same, tellable]
      rw [handled, entries, List.filter_singleton, agree]
      change List.filter _ [entry.response] = _
      rw [List.filter_singleton, ← Bool.and_assoc, Bool.and_self]
      cases decide (0 ≤ entry.response.costUsd) && tellable costText visit.request entry.response <;> rfl

end told

theorem Schema.abs_rounded_sub_le (value : ℚ) : |rounded value - value| ≤ 1 / (2 * 10 ^ 6) := by
  have near : abs ((⌊10 ^ 6 * |value| + 1 / 2⌋ : ℚ) / 10 ^ 6 - |value|) ≤ 1 / (2 * 10 ^ 6) := by
    have low := Int.lt_floor_add_one (10 ^ 6 * |value| + 1 / 2)
    have high := Int.floor_le (10 ^ 6 * |value| + 1 / 2)
    rw [abs_le]
    constructor <;> linarith
  unfold rounded
  dsimp only
  split_ifs with negative
  · rw [abs_of_neg negative] at near ⊢
    rwa [← abs_neg, neg_sub', neg_neg]
  · rwa [abs_of_nonneg (not_lt.mp negative)] at near ⊢

/-- Errors add up. -/
theorem abs_sum_sub_le {α : Type} (approximate exact : α → ℚ) (error : ℚ) (items : List α)
    (near : ∀ item ∈ items, |approximate item - exact item| ≤ error) :
    |(items.map approximate).sum - (items.map exact).sum| ≤ items.length * error := by
  induction items with
  | nil => simp
  | cons item rest ih =>
    obtain ⟨here, there⟩ := List.forall_mem_cons.mp near
    rw [List.map_cons, List.map_cons, List.sum_cons, List.sum_cons, List.length_cons, add_sub_add_comm]
    calc |approximate item - exact item + ((rest.map approximate).sum - (rest.map exact).sum)|
        ≤ |approximate item - exact item| + |(rest.map approximate).sum - (rest.map exact).sum| := abs_add_le ..
      _ ≤ error + rest.length * error := add_le_add here (ih there)
      _ = ↑(rest.length + 1) * error := by push_cast; ring

namespace Bookkeeping

open TracePersistence

/-- The row was inserted for the job under this primary key. -/
structure RequestOf (decimal : Char → Option (Fin 10)) (booking : Uuid × TraceJob)
    (row : RequestLogModel) : Prop where
  id : row.id = booking.1
  tenantId : Uuid.parse decimal booking.2.tenantId.toList = some row.tenantId
  columns : IsRowOf decimal booking.2 row

/-- The tables are the rows of these jobs, each with its spans and its token usage. -/
structure Booked (decimal : Char → Option (Fin 10)) (database : Database) (bookings : List (Uuid × TraceJob)) :
    Prop where
  requests : List.Forall₂ (RequestOf decimal) bookings database.requests.rows
  spans : database.spans = bookings.flatMap fun booking => booking.2.spans.map (spanRow booking.1)
  usages : database.usages = bookings.map fun booking => usageRow booking.1 booking.2.response

section persist

variable {decimal : Char → Option (Fin 10)} {database after : Database} {bookings : List (Uuid × TraceJob)}
  {job : TraceJob} {rowId : Uuid}

theorem Booked.traceIds (booked : Booked decimal database bookings) :
    database.requests.rows.map (·.traceId) = bookings.map fun booking => booking.2.traceId := by
  have columns := booked.requests.imp fun _ _ of => of.columns.traceId_eq.symm
  exact (List.forall₂_eq_eq_eq.symm ▸ List.forall₂_map_left_iff.mpr
    (List.forall₂_map_right_iff.mpr columns)).symm

/-- What a delivery can do that does not raise. -/
theorem Booked.persist (booked : Booked decimal database bookings)
    (delivered : persist decimal database job rowId = some after) :
    (Uuid.parse decimal job.tenantId.toList = none ∧ after = database) ∨
      (Uuid.parse decimal job.tenantId.toList).isSome ∧
        ((job.traceId ∈ bookings.map (fun booking => booking.2.traceId) ∧ after = database) ∨
          job.traceId ∉ bookings.map (fun booking => booking.2.traceId) ∧
            Booked decimal after (bookings ++ [(rowId, job)])) := by
  unfold TracePersistence.persist at delivered
  split at delivered
  · rename_i unparsed
    exact .inl ⟨unparsed, (Option.some.inj delivered).symm⟩
  · rename_i tenantId parsed
    refine .inr ⟨by rw [parsed]; rfl, ?_⟩
    split at delivered
    · rename_i absent
      have fresh : job.traceId ∉ bookings.map fun booking => booking.2.traceId := by
        rw [← booked.traceIds]
        intro traced
        obtain ⟨row, member, same⟩ := List.mem_map.mp traced
        exact withTraceId_eq_nil_iff.mp absent row member same
      obtain ⟨row, created, delivered⟩ := Option.bind_eq_some_iff.mp delivered
      obtain ⟨spans, spanned, delivered⟩ := Option.bind_eq_some_iff.mp delivered
      obtain ⟨usage, counted, committed⟩ := Option.bind_eq_some_iff.mp delivered
      obtain ⟨rfl, -, rfl, -⟩ := createRequest_columns created
      obtain ⟨rows, allSpans, usages⟩ := rows_commit committed
      refine .inr ⟨fresh, ?_, ?_, ?_⟩
      · rw [rows]
        exact List.rel_append booked.requests (.cons ⟨rfl, parsed, isRowOf_of_createRequest created⟩ .nil)
      · rw [allSpans, booked.spans, eq_of_createSpans spanned, List.flatMap_append, List.flatMap_singleton]
      · rw [usages, booked.usages, eq_of_createUsage counted, List.map_append, List.map_singleton]
    · rename_i row found
      refine .inl ⟨?_, (Option.some.inj delivered).symm⟩
      have member : row ∈ withTraceId database.requests.rows job.traceId := found ▸ List.mem_singleton_self row
      obtain ⟨member, traced⟩ := List.mem_filter.mp member
      rw [← booked.traceIds]
      exact List.mem_map.mpr ⟨row, member, of_decide_eq_true traced⟩
    · contradiction

end persist

variable {costText : ChatEndpoint.CostText} {pricing : Pricing} {decimal : Char → Option (Fin 10)}
  {state next : State} {bookings : List (Uuid × TraceJob)}

/-- The returned deliveries of tenants whose id is a UUID; `persist` lets the others go. -/
def State.settled (decimal : Char → Option (Fin 10)) (state : State) : List TraceJob :=
  state.returned.filter fun job => (Uuid.parse decimal job.tenantId.toList).isSome

/-- What was told at a cost that can be counted is what the jobs are of whose responses can be told. -/
def Told (costText : ChatEndpoint.CostText) (state : State) : Prop :=
  state.told.filter (fun told => 0 ≤ told.2.costUsd) =
    (state.jobs.filter fun job => tellable costText job.request job.response).map
      fun job => (job.traceId, job.response)

structure Sound (costText : ChatEndpoint.CostText) (decimal : Char → Option (Fin 10)) (state : State)
    (bookings : List (Uuid × TraceJob)) : Prop where
  told : Told costText state
  booked : Booked decimal state.database bookings
  outbox : Outbox.Sound TraceJob.traceId
    { sent := state.jobs, applied := bookings.map Prod.snd, settled := state.settled decimal }

theorem Sound.initial (tenants apiKeys : Uuid → Bool) :
    Sound costText decimal { database := .unused tenants apiKeys } [] :=
  ⟨rfl, ⟨.nil, rfl, rfl⟩, .initial⟩

theorem Sound.request (sound : Sound costText decimal state bookings) (visit : Visit) (spans : List TraceSpan) :
    Sound costText decimal { state with
      jobs := state.jobs ++ visit.traceJobs pricing spans
      told := state.told ++ (visit.told costText pricing).map fun response =>
        (visit.env.traceId, response) } bookings where
  told := by
    have told := sound.told
    have later := congrArg (List.map fun response => (visit.env.traceId, response))
      (visit.told_eq costText pricing)
    rw [Told] at told ⊢
    simp only [List.filter_append, List.map_append, told]
    refine congrArg _ ?_
    rw [List.filter_map, Visit.traceJobs, List.filter_map, List.filter_filter, List.map_map]
    refine later.trans ?_
    rw [List.map_map]
    refine congrArg (List.map _) (List.filter_congr fun entry _ => Bool.and_comm ..)
  booked := sound.booked
  outbox := sound.outbox.send (visit.traceJobs pricing spans)

theorem Sound.deliver (sound : Sound costText decimal state bookings) {job : TraceJob} (sent : job ∈ state.jobs)
    {rowId : Uuid} {after : Database} (delivered : persist decimal state.database job rowId = some after) :
    ∃ bookings,
      Sound costText decimal { state with database := after, returned := job :: state.returned } bookings := by
  have keys : (bookings.map Prod.snd).map TraceJob.traceId = bookings.map fun booking => booking.2.traceId :=
    List.map_map
  rcases sound.booked.persist delivered with ⟨unparsed, rfl⟩ | ⟨parsed, ⟨known, rfl⟩ | ⟨fresh, booked⟩⟩
  · have same : State.settled decimal { state with returned := job :: state.returned } =
        state.settled decimal :=
      List.filter_cons_of_neg (by rw [unparsed]; exact Bool.false_ne_true)
    exact ⟨bookings, sound.told, sound.booked, same ▸ sound.outbox⟩
  · have settled : State.settled decimal { state with returned := job :: state.returned } =
        job :: state.settled decimal := List.filter_cons_of_pos parsed
    refine ⟨bookings, sound.told, sound.booked, settled ▸ sound.outbox.repeated ?_⟩
    exact keys ▸ known
  · have settled : State.settled decimal { state with database := after, returned := job :: state.returned } =
        job :: state.settled decimal := List.filter_cons_of_pos parsed
    refine ⟨bookings ++ [(rowId, job)], sound.told, booked, ?_⟩
    rw [settled, List.map_append, List.map_singleton]
    exact sound.outbox.apply sent (keys ▸ fresh)

theorem Sound.step (sound : Sound costText decimal state bookings) {label : Label}
    (stepped : step costText pricing decimal state label = some next) :
    ∃ bookings, Sound costText decimal next bookings := by
  cases label with
  | request visit spans =>
    obtain rfl := Option.some.inj stepped
    exact ⟨bookings, sound.request visit spans⟩
  | deliver index rowId interrupted =>
    simp only [Bookkeeping.step] at stepped
    split at stepped
    · contradiction
    · rename_i job queued
      split at stepped
      · obtain rfl := Option.some.inj stepped
        exact ⟨bookings, sound⟩
      · split at stepped
        · obtain rfl := Option.some.inj stepped
          exact ⟨bookings, sound⟩
        · rename_i after delivered
          obtain rfl := Option.some.inj stepped
          exact sound.deliver (List.mem_of_getElem? queued) delivered

/-- Every caller was told something under a trace id of its own, nothing at a negative cost, and every job is of
such a response and has come back, from a tenant whose id is a UUID. -/
structure Settled (costText : ChatEndpoint.CostText) (decimal : Char → Option (Fin 10)) (state : State) :
    Prop where
  apart : (state.told.map Prod.fst).Nodup
  counted : ∀ told ∈ state.told, 0 ≤ told.2.costUsd
  tellable : ∀ job ∈ state.jobs, tellable costText job.request job.response = true
  returned : ∀ job ∈ state.jobs, job ∈ state.returned ∧ (Uuid.parse decimal job.tenantId.toList).isSome

/-- What a caller is told of its tokens and their cost, and what the books say of them. -/
def toldUsage (response : ChatResponse) : ℤ × ℤ × ℚ :=
  (response.usage.inputTokens, response.usage.outputTokens, response.costUsd)

def bookedUsage (usage : TokenUsageModel) : ℤ × ℤ × ℚ := (usage.inputTokens, usage.outputTokens, usage.costUsd)

/-- The books of a state against what its callers were told. -/
structure Balanced (costText : ChatEndpoint.CostText) (decimal : Char → Option (Fin 10)) (state : State)
    (bookings : List (Uuid × TraceJob)) : Prop where
  recorded : Told costText state
  booked : Booked decimal state.database bookings
  genuine : ∀ booking ∈ bookings, booking.2 ∈ state.jobs
  once : (bookings.map fun booking => booking.2.traceId).Nodup
  known : ∀ job ∈ state.returned, (Uuid.parse decimal job.tenantId.toList).isSome →
    job.traceId ∈ bookings.map fun booking => booking.2.traceId
  settled : Settled costText decimal state →
    (state.database.usages.map bookedUsage).Perm (state.told.map fun told => toldUsage told.2) ∧
      |(state.database.usages.map fun usage => Schema.rounded usage.costUsd).sum -
        (state.told.map fun told => told.2.costUsd).sum| ≤ state.told.length * (1 / (2 * 10 ^ 6))

/-- When all is settled, each job is of what was told. -/
theorem Sound.told_of_settled (sound : Sound costText decimal state bookings)
    (settled : Settled costText decimal state) :
    state.told = state.jobs.map fun job => (job.traceId, job.response) := by
  have told := sound.told
  rw [Told, List.filter_eq_self.mpr fun told member => decide_eq_true (settled.counted told member),
    List.filter_eq_self.mpr settled.tellable] at told
  exact told

theorem Sound.perm (sound : Sound costText decimal state bookings) (settled : Settled costText decimal state) :
    (bookings.map Prod.snd).Perm state.jobs := by
  have apart := settled.apart
  refine sound.outbox.perm ?_ fun job sent => List.mem_filter.mpr (settled.returned job sent)
  rw [sound.told_of_settled settled, List.map_map] at apart
  exact apart

theorem Sound.balanced (sound : Sound costText decimal state bookings) :
    Balanced costText decimal state bookings where
  recorded := sound.told
  booked := sound.booked
  genuine booking member := sound.outbox.genuine booking.2 (List.mem_map_of_mem member)
  once := by
    have once := sound.outbox.once
    rwa [List.map_map] at once
  known job returned parsed := by
    have known := sound.outbox.known job (List.mem_filter.mpr ⟨returned, parsed⟩)
    rwa [List.map_map] at known
  settled settled := by
    have usages := (sound.perm settled).map fun job => toldUsage job.response
    have costs := (sound.perm settled).map fun job => Schema.rounded job.response.costUsd
    rw [sound.booked.usages, sound.told_of_settled settled]
    simp only [List.map_map, List.length_map] at usages costs ⊢
    refine ⟨usages, ?_⟩
    have summed : (bookings.map fun booking => Schema.rounded booking.2.response.costUsd).sum =
        (state.jobs.map fun job => Schema.rounded job.response.costUsd).sum := costs.sum_eq
    exact summed ▸ abs_sum_sub_le _ _ _ state.jobs fun job _ => Schema.abs_rounded_sub_le job.response.costUsd

/-- Whatever is requested, delivered twice, reordered or interrupted: what callers were told is what the trace
jobs are of, the tables are the rows of one job for each trace id, and they sum to what was told once all is
settled. -/
theorem run_balanced (costText : ChatEndpoint.CostText) (pricing : Pricing) (decimal : Char → Option (Fin 10))
    (tenants apiKeys : Uuid → Bool) (labels : List Label) (state : State)
    (ran : run? (step costText pricing decimal) { database := .unused tenants apiKeys } labels = some state) :
    ∃ bookings, Balanced costText decimal state bookings := by
  have sound : ∃ bookings, Sound costText decimal state bookings := by
    refine reachable_invariant (fun state => ∃ bookings, Sound costText decimal state bookings) ?_
      ⟨[], .initial tenants apiKeys⟩ ran
    rintro state label next ⟨bookings, sound⟩ stepped
    exact sound.step stepped
  obtain ⟨bookings, sound⟩ := sound
  exact ⟨bookings, sound.balanced⟩

/-- A request whose alias goes into a header. -/
def bookedVisit (traceId modelAlias : String) (stream : Bool) : Visit :=
  ⟨{ GatewayService.outageEnv false with tenantId := sampleTenant.str, traceId },
    { RoutingService.gptRequest with stream, modelAlias }⟩

/-- A stream and two plain requests, of which one cannot be told; their jobs are overtaken, interrupted and
delivered twice. -/
def bookedTwice : List Label :=
  [.request (bookedVisit "first" "fast" true) [], .request (bookedVisit "second" "fast" false) [],
    .request (bookedVisit "third" "λ" false) [], .deliver 1 (.ofNat 2) false, .deliver 0 (.ofNat 3) true,
    .deliver 0 (.ofNat 3) false, .deliver 2 (.ofNat 4) false, .deliver 1 (.ofNat 5) false]

theorem balanced_bookedTwice : ∃ state,
    run? (step ChatEndpoint.sampleText (fun _ => some (1000, 1000)) fun _ => none)
      { database := .unused (· = sampleTenant) fun _ => false } bookedTwice = some state ∧
    state.told.map Prod.fst = ["first", "second"] ∧ state.database.usages.map (·.costUsd) = [30, 30, 30] ∧
    ∃ bookings, Balanced ChatEndpoint.sampleText (fun _ => none) state bookings := by
  have costs : (run? (step ChatEndpoint.sampleText (fun _ => some (1000, 1000)) fun _ => none)
      { database := .unused (· = sampleTenant) fun _ => false } bookedTwice).map
        (fun state => (state.told.map Prod.fst, state.database.usages.map (·.costUsd))) =
        some (["first", "second"], [30, 30, 30]) := by decide +kernel
  obtain ⟨state, ran, costs⟩ := Option.map_eq_some_iff.mp costs
  obtain ⟨told, costs⟩ := Prod.mk.inj costs
  exact ⟨state, ran, told, costs, run_balanced _ _ _ _ _ bookedTwice state ran⟩

end Bookkeeping

end LlmopsGateway
