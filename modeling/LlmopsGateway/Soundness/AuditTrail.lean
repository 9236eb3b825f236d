import LlmopsGateway.Model.TracePersistence
import LlmopsGateway.Soundness.SpendLedger
import LlmopsGateway.Soundness.TraceOnce

/-! # Which completed requests reach the audit log

A handler that returns finalizes its request once, unless it passed on a bypassed stream. The job of a
finalized request is written down exactly when no row carries its trace id yet and its own rows fit
the columns. Trace ids come from the clients, so requests that share one share a row.
-/

namespace LlmopsGateway

open Machine RoutingService

@[simp] theorem auditEntries_append (first second : List Event) :
    auditEntries (first ++ second) = auditEntries first ++ auditEntries second :=
  List.filterMap_append

theorem auditEntries_eq_nil {events : List Event} (unfinalized : ∀ event ∈ events, event.isFinalized = false) :
    auditEntries events = [] := by
  rw [auditEntries, List.filterMap_eq_nil_iff]
  intro event member
  cases event with
  | finalized entry => exact absurd (unfinalized _ member) nofun
  | _ => rfl

/-- What a handler finalizes last is the only entry. -/
theorem auditEntries_concat {events : List Event} (unfinalized : ∀ event ∈ events, event.isFinalized = false)
    (entry : AuditEntry) : auditEntries (events ++ [.finalized entry]) = [entry] := by
  rw [auditEntries_append, auditEntries_eq_nil unfinalized]
  rfl

namespace GatewayService

variable {pricing : Pricing} {env : Environment} {request : ChatRequest}

/-- An exception leaves no entry, and a result one entry for the caller's request. -/
def Audited {α : Type} (env : Environment) (request : ChatRequest) (handled : Handler α) : Prop :=
  match handled.outcome with
  | .error _ => auditEntries handled.events = []
  | .ok _ => ∃ route response, auditEntries handled.events =
      [⟨route, env.tenantId, env.apiKeyId, applyAdapterRoute env request, response⟩]

theorem isFinalized_chunks (chunks : List String) :
    ∀ event ∈ chunks.map fun text => Event.yielded (.chunk text), event.isFinalized = false := by
  simp [Event.isFinalized]

theorem handleChatCompletion_audited (pricing : Pricing) (env : Environment) (request : ChatRequest) :
    Audited env request (handleChatCompletion pricing env request) := by
  have exits := completionExit pricing env request
  generalize handleChatCompletion pricing env request = handled at exits ⊢
  cases exits with
  | hit looked written =>
    refine ⟨_, _, auditEntries_concat (fun event member => ?_) _⟩
    rw [written event member]
    rfl
  | joined looked lost answered => exact ⟨_, _, rfl⟩
  | @served status won response tried looked locked completed =>
    have untouched : auditEntries tried = [] := auditEntries_eq_nil fun event member => by
      rw [locked event member]
      rfl
    refine ⟨.chatCompletions, stamp env (applyAdapterRoute env request) (costed pricing response) status, ?_⟩
    rw [auditEntries_append, untouched, List.nil_append, servedLog]
    cases won <;> cases status <;> rfl
  | failed locked =>
    refine auditEntries_eq_nil fun event member => ?_
    rcases locked event member with rfl | ⟨won, rfl⟩ <;> rfl

/-- A stream is audited unless it is bypassed. -/
theorem handleChatCompletionStream_audited (pricing : Pricing)
    (notBypassed : (applyAdapterRoute env request).cacheBypass = false) :
    Audited env request (handleChatCompletionStream pricing env request) := by
  have exits := streamExit pricing env request
  generalize handleChatCompletionStream pricing env request = handled at exits ⊢
  cases exits with
  | hit looked written =>
    refine ⟨_, _, auditEntries_concat (fun event member => ?_) _⟩
    rcases List.mem_append.mp member with member | member
    · rw [written event member]
      rfl
    · simp only [List.mem_cons, List.not_mem_nil, or_false] at member
      rcases member with rfl | rfl <;> rfl
  | bypassed looked streams =>
    exact absurd ((CacheService.cacheBypass_iff looked).mpr rfl) (by simp [notBypassed])
  | @missed provider model chunks usage name looked streams =>
    refine ⟨.chatCompletionsStream,
      streamedResponse pricing env (applyAdapterRoute env request) .miss chunks usage name, ?_⟩
    rw [auditEntries_append, auditEntries_eq_nil (isFinalized_chunks chunks)]
    rfl
  | failed cut =>
    refine auditEntries_eq_nil fun event member => ?_
    rcases cut event member with ⟨text, rfl⟩ | ⟨model, usage, rfl⟩ <;> rfl

theorem auditEntries_of_bypassed (pricing : Pricing)
    (bypass : (applyAdapterRoute env request).cacheBypass = true) :
    auditEntries (handleChatCompletionStream pricing env request).events = [] := by
  have exits := streamExit pricing env request
  generalize handleChatCompletionStream pricing env request = handled at exits ⊢
  cases exits with
  | hit looked written =>
    exact absurd (bypass.symm.trans (CacheService.cacheBypass_of_hit looked)) nofun
  | bypassed looked streams =>
    rw [auditEntries_append, auditEntries_eq_nil (isFinalized_chunks _)]
    rfl
  | missed looked streams => exact absurd ((CacheService.cacheBypass_iff looked).mp bypass) nofun
  | failed cut =>
    refine auditEntries_eq_nil fun event member => ?_
    rcases cut event member with ⟨text, rfl⟩ | ⟨model, usage, rfl⟩ <;> rfl

end GatewayService

/-- A request is audited unless it is a bypassed stream. -/
theorem Visit.audited (pricing : Pricing) (visit : Visit) :
    if visit.request.stream && visit.request.cacheBypass then
      auditEntries (visit.handle pricing).events = []
    else GatewayService.Audited visit.env visit.request (visit.handle pricing) := by
  have kept := GatewayService.cacheBypass_applyAdapterRoute visit.env visit.request
  unfold handle
  cases streamed : visit.request.stream with
  | true =>
    cases bypass : visit.request.cacheBypass with
    | true => exact GatewayService.auditEntries_of_bypassed pricing (kept.trans bypass)
    | false => exact GatewayService.handleChatCompletionStream_audited pricing (kept.trans bypass)
  | false =>
    have audited := GatewayService.handleChatCompletion_audited pricing visit.env visit.request
    revert audited
    rcases GatewayService.handleChatCompletion pricing visit.env visit.request with ⟨events, error | response⟩
    · exact id
    · rintro ⟨route, response, entries⟩
      exact ⟨route, response, by simpa [Logged.bind_ok] using entries⟩

theorem Visit.entry_request {pricing : Pricing} {visit : Visit} {entry : AuditEntry}
    (recorded : entry ∈ auditEntries (visit.handle pricing).events) :
    entry.request = GatewayService.applyAdapterRoute visit.env visit.request := by
  have audited := visit.audited pricing
  split at audited
  · rw [audited] at recorded
    cases recorded
  · unfold GatewayService.Audited at audited
    split at audited
    · rw [audited] at recorded
      cases recorded
    · obtain ⟨route, response, entries⟩ := audited
      rw [entries, List.mem_singleton] at recorded
      rw [recorded]

namespace TracePersistence

variable {decimal : Char → Option (Fin 10)} {database : Database} {job : TraceJob} {rowId : Uuid}

/-- The tenant is known and every row of the job fits its columns. -/
def Writable (decimal : Char → Option (Fin 10)) (database : Database) (job : TraceJob) (rowId : Uuid) : Prop :=
  ∃ tenantId, Uuid.parse decimal job.tenantId.toList = some tenantId ∧
    (createRequest decimal database job tenantId rowId).isSome ∧ (createSpans job rowId).isSome ∧
      (createUsage job rowId).isSome

/-- No request has this trace id or this primary key yet. -/
def Unused (database : Database) (traceId : String) (rowId : Uuid) : Prop :=
  ∀ row ∈ database.requests.rows, row.traceId ≠ traceId ∧ row.id ≠ rowId

/-- The row was inserted for the job. -/
structure RowOf (decimal : Char → Option (Fin 10)) (job : TraceJob) (rowId : Uuid) (row : RequestLogModel) :
    Prop where
  id : row.id = rowId
  traceId : row.traceId = job.traceId
  tenantId : Uuid.parse decimal job.tenantId.toList = some row.tenantId
  modelRequested : row.modelRequested = job.request.model

/-- A delivery adds the row of its job, or nothing at all. -/
inductive Delivered (decimal : Char → Option (Fin 10)) (database : Database) (job : TraceJob) (rowId : Uuid)
    (after : Database) : Prop
  | added (row : RequestLogModel) (writable : Writable decimal database job rowId)
      (unused : Unused database job.traceId rowId) (of : RowOf decimal job rowId row)
      (rows : after.requests.rows = database.requests.rows ++ [row])
      (tenants : after.tenants = database.tenants) (apiKeys : after.apiKeys = database.apiKeys)
  | skipped (lost : ¬ (Writable decimal database job rowId ∧ Unused database job.traceId rowId))
      (same : after = database)

theorem createRequest_columns {tenantId : Uuid} {row : RequestLogModel}
    (created : createRequest decimal database job tenantId rowId = some row) :
    row.id = rowId ∧ row.traceId = job.traceId ∧ row.tenantId = tenantId ∧
      row.modelRequested = job.request.model := by
  unfold createRequest at created
  split at created
  · contradiction
  · dsimp only at created
    split at created
    · obtain rfl := Option.some.inj created
      exact ⟨rfl, rfl, rfl, rfl⟩
    · contradiction

theorem withTraceId_eq_nil_iff {rows : List RequestLogModel} {traceId : String} :
    withTraceId rows traceId = [] ↔ ∀ row ∈ rows, row.traceId ≠ traceId := by
  simp [withTraceId, List.filter_eq_nil_iff]

/-- A primary key that is in use is the only thing that can still fail the commit. -/
theorem commit_cases (database : Database) (row : RequestLogModel) (spans : List RequestSpanModel)
    (usage : TokenUsageModel) :
    (∃ after, commit database row spans usage = some after ∧
      (∀ other ∈ database.requests.rows, other.id ≠ row.id) ∧
        after.requests.rows = database.requests.rows ++ [row] ∧ after.tenants = database.tenants ∧
          after.apiKeys = database.apiKeys) ∨
      commit database row spans usage = none ∧ ∃ other ∈ database.requests.rows, other.id = row.id := by
  unfold commit
  cases inserted : database.requests.insert row with
  | none =>
    obtain ⟨other, member, conflict⟩ := Table.insert_eq_none_iff.mp inserted
    exact .inr ⟨rfl, other, member, of_decide_eq_true conflict⟩
  | some requests =>
    obtain ⟨fresh, rows⟩ := Table.insert_eq_some_iff.mp inserted
    exact .inl ⟨_, rfl, fun other member => of_decide_eq_false (fresh other member), rows, rfl, rfl⟩

theorem deliver_cases (decimal : Char → Option (Fin 10)) (database : Database) (job : TraceJob) (rowId : Uuid) :
    Delivered decimal database job rowId (deliver decimal database job rowId) := by
  unfold deliver persist
  split
  · rename_i unparsed
    refine .skipped ?_ rfl
    rintro ⟨⟨tenantId, parsed, -⟩, -⟩
    exact Option.some_ne_none tenantId (parsed.symm.trans unparsed)
  · rename_i tenantId parsed
    split
    · rename_i absent
      have untraced := withTraceId_eq_nil_iff.mp absent
      cases created : createRequest decimal database job tenantId rowId with
      | none =>
        refine .skipped ?_ rfl
        rintro ⟨⟨other, again, written, -⟩, -⟩
        obtain rfl := Option.some.inj (parsed.symm.trans again)
        simp [created] at written
      | some row =>
        obtain ⟨rfl, traced, owned, requested⟩ := createRequest_columns created
        cases spanned : createSpans job row.id with
        | none =>
          refine .skipped ?_ (by simp [spanned])
          rintro ⟨⟨other, -, -, written, -⟩, -⟩
          simp [spanned] at written
        | some spans =>
          cases counted : createUsage job row.id with
          | none =>
            refine .skipped ?_ (by simp [spanned, counted])
            rintro ⟨⟨other, -, -, -, written⟩, -⟩
            simp [counted] at written
          | some usage =>
            rcases commit_cases database row spans usage with
              ⟨after, committed, fresh, rows, tenants, apiKeys⟩ | ⟨refused, other, member, same⟩
            · have delivered : ((do
                  let row ← some row
                  let spans ← createSpans job row.id
                  let usage ← createUsage job row.id
                  commit database row spans usage).getD database) = after := by
                simp [spanned, counted, committed]
              rw [delivered]
              exact .added row ⟨tenantId, parsed, by simp [created], by simp [spanned], by simp [counted]⟩
                (fun other member => ⟨untraced other member, fresh other member⟩)
                ⟨rfl, traced, owned ▸ parsed, requested⟩ rows tenants apiKeys
            · refine .skipped ?_ (by simp [spanned, counted, refused])
              rintro ⟨-, unused⟩
              exact (unused other member).2 same
    · rename_i row found
      refine .skipped ?_ rfl
      rintro ⟨-, unused⟩
      have absent := withTraceId_eq_nil_iff.mpr fun row member => (unused row member).1
      simp [absent] at found
    · rename_i present _
      refine .skipped ?_ rfl
      rintro ⟨-, unused⟩
      exact present (withTraceId_eq_nil_iff.mpr fun row member => (unused row member).1)

end TracePersistence

open TracePersistence

/-- A request with its trace header, and what it draws: a trace id of its own, its spans and the primary
key of its row. -/
structure TracedVisit where
  visit : Visit
  header : Option String
  uuid : Uuid
  spans : List TraceSpan
  rowId : Uuid

namespace TracedVisit

variable {pricing : Pricing} {decimal : Char → Option (Fin 10)} {traced : TracedVisit}
  {database : Database} {visits : List TracedVisit}

def traceId (traced : TracedVisit) : String := RequestContext.traceId traced.header traced.uuid

def handle (pricing : Pricing) (traced : TracedVisit) : Handler Unit :=
  { traced.visit with env := { traced.visit.env with traceId := traced.traceId } : Visit }.handle pricing

def completed (pricing : Pricing) (traced : TracedVisit) : Bool :=
  match (traced.handle pricing).outcome with
  | .ok _ => true
  | .error _ => false

/-- The trace jobs of the request. -/
def jobs (pricing : Pricing) (traced : TracedVisit) : List TraceJob :=
  (auditEntries (traced.handle pricing).events).map fun entry => entry.traceJob traced.traceId traced.spans

/-- The request is handled and its jobs are delivered. -/
def record (pricing : Pricing) (decimal : Char → Option (Fin 10)) (database : Database) (traced : TracedVisit) :
    Database :=
  (traced.jobs pricing).foldl (fun database job => deliver decimal database job traced.rowId) database

/-- The requests in the order in which their jobs are delivered. -/
def recordAll (pricing : Pricing) (decimal : Char → Option (Fin 10)) (database : Database)
    (visits : List TracedVisit) : Database :=
  visits.foldl (record pricing decimal) database

def bypassedStream (traced : TracedVisit) : Bool :=
  traced.visit.request.stream && traced.visit.request.cacheBypass

/-- The row stands for the request, under its own tenant. -/
structure Row (decimal : Char → Option (Fin 10)) (traced : TracedVisit) (row : RequestLogModel) : Prop where
  id : row.id = traced.rowId
  traceId : row.traceId = traced.traceId
  tenantId : Uuid.parse decimal traced.visit.env.tenantId.toList = some row.tenantId

/-- The rows added to the table are those of the completed requests, one for each. -/
def EachRecorded (pricing : Pricing) (decimal : Char → Option (Fin 10)) (database : Database)
    (visits : List TracedVisit) : Prop :=
  ∃ added, (recordAll pricing decimal database visits).requests.rows = database.requests.rows ++ added ∧
    List.Forall₂ (Row decimal) (visits.filter (completed pricing)) added

/-- Completed requests are finalized, their rows fit, and neither their trace ids nor their primary keys
repeat. -/
structure Recordable (pricing : Pricing) (decimal : Char → Option (Fin 10)) (database : Database)
    (visits : List TracedVisit) : Prop where
  finalized : ∀ traced ∈ visits, traced.completed pricing = true → traced.bypassedStream = false
  writable : ∀ traced ∈ visits, ∀ job ∈ traced.jobs pricing, Writable decimal database job traced.rowId
  unused : ∀ traced ∈ visits, traced.completed pricing = true → Unused database traced.traceId traced.rowId
  apart : visits.Pairwise fun first second => first.completed pricing = true → second.completed pricing = true →
    first.traceId ≠ second.traceId ∧ first.rowId ≠ second.rowId

theorem jobs_of_failed (failed : traced.completed pricing = false) : traced.jobs pricing = [] := by
  have audited := Visit.audited pricing
    { traced.visit with env := { traced.visit.env with traceId := traced.traceId } : Visit }
  unfold completed handle at failed
  unfold jobs handle
  split at audited
  · rw [audited]
    rfl
  · unfold GatewayService.Audited at audited
    split at failed
    · contradiction
    · rename_i error raised
      rw [raised] at audited
      rw [audited]
      rfl

/-- A completed request has one job, for its own tenant, unless it is a bypassed stream. -/
theorem jobs_of_completed (completed : traced.completed pricing = true) :
    traced.bypassedStream = true ∧ traced.jobs pricing = [] ∨
      traced.bypassedStream = false ∧ ∃ job, traced.jobs pricing = [job] ∧ job.traceId = traced.traceId ∧
        job.tenantId = traced.visit.env.tenantId := by
  have audited := Visit.audited pricing
    { traced.visit with env := { traced.visit.env with traceId := traced.traceId } : Visit }
  unfold TracedVisit.completed handle at completed
  unfold jobs handle bypassedStream
  split at audited
  · rename_i bypassed
    exact .inl ⟨bypassed, by rw [audited]; rfl⟩
  · rename_i audible
    unfold GatewayService.Audited at audited
    split at completed
    · rename_i value returned
      rw [returned] at audited
      obtain ⟨route, response, entries⟩ := audited
      exact .inr ⟨Bool.eq_false_of_not_eq_true audible, _, by rw [entries]; rfl, rfl, rfl⟩
    · contradiction

/-- What the row of one completed request takes. -/
structure Accepted (pricing : Pricing) (decimal : Char → Option (Fin 10)) (database : Database)
    (traced : TracedVisit) : Prop where
  finalized : traced.bypassedStream = false
  writable : ∀ job ∈ traced.jobs pricing, Writable decimal database job traced.rowId
  unused : Unused database traced.traceId traced.rowId

/-- The row of a request has been added. -/
structure Added (decimal : Char → Option (Fin 10)) (database : Database) (traced : TracedVisit)
    (row : RequestLogModel) (after : Database) : Prop where
  stands : Row decimal traced row
  rows : after.requests.rows = database.requests.rows ++ [row]
  tenants : after.tenants = database.tenants
  apiKeys : after.apiKeys = database.apiKeys

theorem record_of_failed (failed : traced.completed pricing = false) :
    record pricing decimal database traced = database := by
  rw [record, jobs_of_failed failed]
  rfl

theorem record_of_completed (completed : traced.completed pricing = true) :
    (Accepted pricing decimal database traced ∧ ∃ row,
        Added decimal database traced row (record pricing decimal database traced)) ∨
      ¬ Accepted pricing decimal database traced ∧ record pricing decimal database traced = database := by
  rcases jobs_of_completed completed with ⟨bypassed, jobs⟩ | ⟨kept, job, jobs, traceId, tenantId⟩
  · refine .inr ⟨fun accepted => ?_, by rw [record, jobs]; rfl⟩
    exact absurd (bypassed.symm.trans accepted.finalized) nofun
  · have recorded : record pricing decimal database traced = deliver decimal database job traced.rowId := by
      rw [record, jobs, List.foldl_cons, List.foldl_nil]
    rw [recorded]
    cases deliver_cases decimal database job traced.rowId with
    | added row writable unused of rows tenants apiKeys =>
      refine .inl ⟨⟨kept, ?_, traceId ▸ unused⟩, row, ⟨of.id, of.traceId.trans traceId, tenantId ▸ of.tenantId⟩,
        rows, tenants, apiKeys⟩
      rw [jobs]
      exact fun other member => List.mem_singleton.mp member ▸ writable
    | skipped lost same =>
      refine .inr ⟨fun accepted => lost ⟨?_, traceId ▸ accepted.unused⟩, same⟩
      exact accepted.writable job (jobs ▸ List.mem_singleton_self job)

theorem length_record_le (pricing : Pricing) (decimal : Char → Option (Fin 10)) (database : Database)
    (traced : TracedVisit) : (record pricing decimal database traced).requests.rows.length ≤
    database.requests.rows.length + ([traced].filter (completed pricing)).length := by
  cases completed : traced.completed pricing with
  | false =>
    rw [record_of_failed completed]
    exact Nat.le_add_right ..
  | true =>
    rcases record_of_completed completed with ⟨-, row, added⟩ | ⟨-, same⟩
    · rw [added.rows]
      simp [completed]
    · rw [same]
      exact Nat.le_add_right ..

/-- No request adds more than one row. -/
theorem length_recordAll_le (pricing : Pricing) (decimal : Char → Option (Fin 10)) (database : Database)
    (visits : List TracedVisit) :
    (recordAll pricing decimal database visits).requests.rows.length ≤
      database.requests.rows.length + (visits.filter (completed pricing)).length := by
  induction visits generalizing database with
  | nil => exact Nat.le_refl _
  | cons traced rest ih =>
    have here := length_record_le pricing decimal database traced
    have later := ih (record pricing decimal database traced)
    have split : ((traced :: rest).filter (completed pricing)).length =
        ([traced].filter (completed pricing)).length + (rest.filter (completed pricing)).length := by
      rw [← List.singleton_append, List.filter_append, List.length_append]
    rw [split]
    exact later.trans (by omega)

theorem prefix_record (pricing : Pricing) (decimal : Char → Option (Fin 10)) (database : Database)
    (traced : TracedVisit) :
    database.requests.rows <+: (record pricing decimal database traced).requests.rows := by
  cases completed : traced.completed pricing with
  | false =>
    have same : record pricing decimal database traced = database := record_of_failed completed
    exact same.symm ▸ List.prefix_rfl
  | true =>
    rcases record_of_completed completed with ⟨-, row, added⟩ | ⟨-, same⟩
    · exact ⟨[row], added.rows.symm⟩
    · exact same.symm ▸ List.prefix_rfl

/-- Rows that are there stay. -/
theorem prefix_recordAll (pricing : Pricing) (decimal : Char → Option (Fin 10)) (database : Database)
    (visits : List TracedVisit) :
    database.requests.rows <+: (recordAll pricing decimal database visits).requests.rows := by
  induction visits generalizing database with
  | nil => exact List.prefix_rfl
  | cons traced rest ih =>
    exact (prefix_record pricing decimal database traced).trans (ih (record pricing decimal database traced))

theorem writable_of_added {row : RequestLogModel} {after : Database}
    (added : Added decimal database traced row after)
    (job : TraceJob) (rowId : Uuid) : Writable decimal after job rowId ↔
      Writable decimal database job rowId := by
  unfold Writable createRequest
  rw [added.tenants, added.apiKeys]

theorem unused_of_added {row : RequestLogModel} {after : Database}
    (added : Added decimal database traced row after)
    (traceId : String) (rowId : Uuid) : Unused after traceId rowId ↔
      Unused database traceId rowId ∧ traced.traceId ≠ traceId ∧ traced.rowId ≠ rowId := by
  unfold Unused
  rw [added.rows, List.forall_mem_append, List.forall_mem_singleton, added.stands.traceId, added.stands.id]

theorem recordable_cons_of_failed (failed : traced.completed pricing = false) :
    Recordable pricing decimal database (traced :: visits) ↔ Recordable pricing decimal database visits := by
  constructor
  · rintro ⟨finalized, writable, unused, apart⟩
    exact ⟨(List.forall_mem_cons.mp finalized).2, (List.forall_mem_cons.mp writable).2,
      (List.forall_mem_cons.mp unused).2, (List.pairwise_cons.mp apart).2⟩
  · rintro ⟨finalized, writable, unused, apart⟩
    refine ⟨List.forall_mem_cons.mpr ⟨?_, finalized⟩, List.forall_mem_cons.mpr ⟨?_, writable⟩,
      List.forall_mem_cons.mpr ⟨?_, unused⟩, List.pairwise_cons.mpr ⟨fun other _ => ?_, apart⟩⟩
    · simp [failed]
    · simp [jobs_of_failed failed]
    · simp [failed]
    · simp [failed]

theorem recordable_nil : Recordable pricing decimal database [] where
  finalized := List.forall_mem_nil _
  writable := List.forall_mem_nil _
  unused := List.forall_mem_nil _
  apart := .nil

theorem Recordable.accepted (recordable : Recordable pricing decimal database (traced :: visits))
    (completed : traced.completed pricing = true) : Accepted pricing decimal database traced :=
  ⟨recordable.finalized traced (List.mem_cons_self ..) completed,
    recordable.writable traced (List.mem_cons_self ..),
    recordable.unused traced (List.mem_cons_self ..) completed⟩

theorem recordable_cons_of_added {row : RequestLogModel} {after : Database}
    (completed : traced.completed pricing = true) (accepted : Accepted pricing decimal database traced)
    (added : Added decimal database traced row after) :
    Recordable pricing decimal database (traced :: visits) ↔ Recordable pricing decimal after visits := by
  constructor
  · rintro ⟨finalized, writable, unused, apart⟩
    obtain ⟨others, apart⟩ := List.pairwise_cons.mp apart
    refine ⟨(List.forall_mem_cons.mp finalized).2, fun other member job among => ?_,
      fun other member done => ?_, apart⟩
    · exact (writable_of_added added ..).mpr (writable other (List.mem_cons_of_mem _ member) job among)
    · exact (unused_of_added added ..).mpr
        ⟨unused other (List.mem_cons_of_mem _ member) done, others other member completed done⟩
  · rintro ⟨finalized, writable, unused, apart⟩
    refine ⟨List.forall_mem_cons.mpr ⟨fun _ => accepted.finalized, finalized⟩,
      List.forall_mem_cons.mpr ⟨accepted.writable, fun other member job among => ?_⟩,
      List.forall_mem_cons.mpr ⟨fun _ => accepted.unused, fun other member done => ?_⟩,
      List.pairwise_cons.mpr ⟨fun other member _ done => ?_, apart⟩⟩
    · exact (writable_of_added added ..).mp (writable other member job among)
    · exact ((unused_of_added added ..).mp (unused other member done)).1
    · exact ((unused_of_added added ..).mp (unused other member done)).2

/-- The log of a sequence whose first request has been added is that of the rest. -/
theorem eachRecorded_cons_of_added {row : RequestLogModel} (completed : traced.completed pricing = true)
    (added : Added decimal database traced row (record pricing decimal database traced)) :
    EachRecorded pricing decimal database (traced :: visits) ↔
      EachRecorded pricing decimal (record pricing decimal database traced) visits := by
  unfold EachRecorded
  rw [List.filter_cons_of_pos completed, added.rows]
  have later : recordAll pricing decimal database (traced :: visits) =
      recordAll pricing decimal (record pricing decimal database traced) visits := rfl
  constructor
  · rintro ⟨rows, ended, matched⟩
    obtain ⟨others, extended⟩ :=
      prefix_recordAll pricing decimal (record pricing decimal database traced) visits
    rw [later, ← extended, added.rows, List.append_assoc] at ended
    obtain rfl := List.append_cancel_left ended
    cases matched with
    | cons _ matched => exact ⟨others, by rw [← extended, added.rows], matched⟩
  · rintro ⟨rows, ended, matched⟩
    exact ⟨row :: rows, by rw [later, ended, List.append_assoc]; rfl, .cons added.stands matched⟩

/-- Completed requests and rows of the audit log correspond exactly if nothing stands in the way of any. -/
theorem eachRecorded_iff (pricing : Pricing) (decimal : Char → Option (Fin 10)) (database : Database)
    (visits : List TracedVisit) :
    EachRecorded pricing decimal database visits ↔ Recordable pricing decimal database visits := by
  induction visits generalizing database with
  | nil => exact iff_of_true ⟨[], (List.append_nil _).symm, .nil⟩ recordable_nil
  | cons traced rest ih =>
    cases completed : traced.completed pricing with
    | false =>
      rw [recordable_cons_of_failed completed, ← ih, EachRecorded, EachRecorded, recordAll, List.foldl_cons,
        record_of_failed completed, List.filter_cons_of_neg (by simp [completed])]
      rfl
    | true =>
      rcases record_of_completed completed with ⟨accepted, row, added⟩ | ⟨refused, same⟩
      · rw [recordable_cons_of_added completed accepted added, ← ih, eachRecorded_cons_of_added completed added]
      · -- one row is missing, and no later request can make up for it
        refine iff_of_false ?_ fun recordable => refused (recordable.accepted completed)
        rintro ⟨rows, ended, matched⟩
        have most := length_recordAll_le pricing decimal database rest
        rw [recordAll, List.foldl_cons, same] at ended
        rw [recordAll, ended, List.length_append, ← matched.length_eq, List.filter_cons_of_pos completed,
          List.length_cons] at most
        omega

/-- Two tenants that send the same trace header. -/
def otherTenant : Uuid := .ofNat 4

def sampleVisit (tenant rowId : Uuid) : TracedVisit where
  visit := ⟨{ GatewayService.outageEnv false with tenantId := tenant.str }, gptRequest⟩
  header := some "trace-1"
  uuid := rowId
  spans := []
  rowId := rowId

def sampleVisits : List TracedVisit :=
  [sampleVisit sampleTenant (.ofNat 2), sampleVisit otherTenant (.ofNat 3)]

def twoTenants : Database :=
  { sampleDatabase with tenants := fun tenant => tenant = sampleTenant || tenant = otherTenant }

/-- Both requests complete, and the log only knows the first. -/
theorem eachRecorded_sharedTraceId :
    (sampleVisits.filter (completed fun _ => none)).length = 2 ∧
      (∀ traced ∈ sampleVisits, ∃ tenant, Uuid.parse (fun _ => none) traced.visit.env.tenantId.toList =
        some tenant ∧
        twoTenants.tenants tenant = true ∧ traced.traceId.length ≤ 64) ∧
      ¬ EachRecorded (fun _ => none) (fun _ => none) twoTenants sampleVisits := by
  have both : (sampleVisits.filter (completed fun _ => none)).length = 2 := by decide +kernel
  have tenants : (recordAll (fun _ => none) (fun _ => none) twoTenants sampleVisits).requests.rows.map
      RequestLogModel.tenantId = [sampleTenant] := by decide +kernel
  refine ⟨both, ?_, ?_⟩
  · intro traced member
    rcases List.mem_cons.mp member with rfl | member
    · exact ⟨sampleTenant, by decide, by decide, by decide⟩
    · obtain rfl := List.mem_singleton.mp member
      exact ⟨otherTenant, by decide, by decide, by decide⟩
  · rintro ⟨added, rows, matched⟩
    have one := congrArg List.length tenants
    rw [rows, List.length_map, List.length_append, ← matched.length_eq, both, List.length_singleton] at one
    omega

end TracedVisit

end LlmopsGateway
