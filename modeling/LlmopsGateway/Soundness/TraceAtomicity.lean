import LlmopsGateway.Soundness.TraceOnce

/-! # Persisting a trace is all or nothing

A call inserts its rows under a transaction of its own and the database changes at no other step than a
commit. The committed rows are therefore those of the committed calls, each with all its spans and its token
usage, and a call that ends in any other way has none.
-/

namespace LlmopsGateway.TracePersistence

open Machine

variable {decimal : Char → Option (Fin 10)} {jobs : ℕ → TraceJob} {job : TraceJob} {state next : State}
  {database : Database} {label : Label} {overtaken looked : Bool}

/-- The rows a call has inserted are those of its job. -/
def InsertedFor (decimal : Char → Option (Fin 10)) (job : TraceJob) : Phase → Prop
  | .spanning row => IsRowOf decimal job row
  | .counting row spans => IsRowOf decimal job row ∧ spans = job.spans.map (spanRow row.id)
  | .committing row spans usage => IsRowOf decimal job row ∧ spans = job.spans.map (spanRow row.id) ∧
      usage = usageRow row.id job.response
  | _ => True

theorem InsertedFor.advance {phase later : Phase} (inserted : InsertedFor decimal job phase)
    (goes : Advance decimal job database overtaken phase looked later) : InsertedFor decimal job later := by
  cases goes with
  | created tenantId id row created => exact isRowOf_of_createRequest created
  | spanned row spans created => exact ⟨inserted, eq_of_createSpans created⟩
  | counted row spans usage created => exact ⟨inserted.1, inserted.2, eq_of_createUsage created⟩
  | skip | begin | found | missing | failed => trivial

/-- The database is what the listed calls, which are the committed ones, have written. -/
structure Wrote (decimal : Char → Option (Fin 10)) (jobs : ℕ → TraceJob) (state : State)
    (writes : List (ℕ × RequestLogModel)) : Prop where
  distinct : (writes.map Prod.fst).Nodup
  committed : ∀ id, id ∈ writes.map Prod.fst ↔ state.phases id = .committed
  requests : state.database.requests.rows = writes.map Prod.snd
  spans : state.database.spans = writes.flatMap fun write => (jobs write.1).spans.map (spanRow write.2.id)
  usages : state.database.usages = writes.map fun write => usageRow write.2.id (jobs write.1).response
  rows : ∀ write ∈ writes, IsRowOf decimal (jobs write.1) write.2
  phases : ∀ id, InsertedFor decimal (jobs id) (state.phases id)

variable {writes : List (ℕ × RequestLogModel)}

theorem Advance.ne_committed {phase later : Phase}
    (goes : Advance decimal job database overtaken phase looked later) :
    phase ≠ .committed ∧ later ≠ .committed := by
  cases goes with
  | failed phase looked opened => exact ⟨fun same => by rw [same] at opened; contradiction, nofun⟩
  | _ => exact ⟨nofun, nofun⟩

theorem Wrote.advance (wrote : Wrote decimal jobs state writes) {id : ℕ} {phase : Phase}
    (goes : Advance decimal (jobs id) state.database (state.overtaken id) (state.phases id) looked phase) :
    Wrote decimal jobs { state with
      phases := Function.update state.phases id phase
      overtaken := Function.update state.overtaken id looked } writes := by
  obtain ⟨before, after⟩ := goes.ne_committed
  refine ⟨wrote.distinct, fun other => ?_, wrote.requests, wrote.spans, wrote.usages, wrote.rows,
    fun other => ?_⟩
  · rw [wrote.committed]
    by_cases same : other = id
    · subst same
      simpa using iff_of_false before after
    · simp [same]
  · by_cases same : other = id
    · subst same
      simpa using (wrote.phases other).advance goes
    · simpa [same] using wrote.phases other

theorem Wrote.commit (wrote : Wrote decimal jobs state writes) {id : ℕ} {row : RequestLogModel}
    {spans : List RequestSpanModel} {usage : TokenUsageModel} {after : Database}
    (ready : state.phases id = .committing row spans usage)
    (takes : TracePersistence.commit state.database row spans usage = some after) :
    Wrote decimal jobs ({ state with database := after, overtaken := fun _ => true }.goto id .committed)
      (writes ++ [(id, row)]) := by
  obtain ⟨requests, allSpans, usages⟩ := rows_commit takes
  have inserted := wrote.phases id
  rw [ready] at inserted
  obtain ⟨rowOf, rfl, rfl⟩ := inserted
  have fresh : id ∉ writes.map Prod.fst := by
    rw [wrote.committed, ready]
    exact nofun
  refine ⟨?_, fun other => ?_, ?_, ?_, ?_, ?_, fun other => ?_⟩
  · rw [List.map_append]
    refine List.nodup_append.mpr ⟨wrote.distinct, List.nodup_cons.mpr ⟨nofun, List.nodup_nil⟩, ?_⟩
    intro other listed last here equal
    obtain rfl : last = id := List.mem_singleton.mp here
    exact fresh (equal ▸ listed)
  · rw [List.map_append, List.mem_append, wrote.committed]
    by_cases same : other = id
    · subst same
      simp [State.goto]
    · simp [State.goto, same]
  · rw [State.goto, requests, wrote.requests, List.map_append]
    rfl
  · rw [State.goto, allSpans, wrote.spans, List.flatMap_append, List.flatMap_singleton]
  · rw [State.goto, usages, wrote.usages, List.map_append]
    rfl
  · rw [List.forall_mem_append, List.forall_mem_singleton]
    exact ⟨wrote.rows, rowOf⟩
  · by_cases same : other = id
    · subst same
      simp [State.goto, InsertedFor]
    · simpa [State.goto, same] using wrote.phases other

theorem Wrote.step (wrote : Wrote decimal jobs state writes)
    (stepped : step decimal jobs state label = some next) : ∃ writes, Wrote decimal jobs next writes := by
  cases step_change stepped with
  | advanced id looked phase goes moved => exact ⟨writes, moved ▸ wrote.advance goes⟩
  | committed id row spans usage after called ready takes moved =>
    exact ⟨writes ++ [(id, row)], moved ▸ wrote.commit ready takes⟩

theorem Wrote.initial (decimal : Char → Option (Fin 10)) (jobs : ℕ → TraceJob) (tenants apiKeys : Uuid → Bool) :
    Wrote decimal jobs { database := .unused tenants apiKeys } [] :=
  ⟨List.nodup_nil, fun _ => iff_of_false nofun nofun, rfl, rfl, rfl, nofun, fun _ => trivial⟩

/-- The second call raises in the middle of the first one. -/
def interrupted : List Label :=
  [.start 0, .start 1, .select 0, .select 1, .createRequest 0 (.ofNat 2), .createRequest 1 (.ofNat 3),
    .createSpans 0, .createUsage 0, .commit 0]

end LlmopsGateway.TracePersistence
