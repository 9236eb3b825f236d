import LlmopsGateway.Machine.Run
import LlmopsGateway.Model.TracePersistence

/-! # What a step of a delivery does

A delivery goes on by itself, with the rows of its own job, until its commit takes effect; only that
changes the database. Invariants of the deliveries are derived from this and not from the statements.
-/

namespace LlmopsGateway.TracePersistence

open Machine

variable {decimal : Char → Option (Fin 10)} {jobs : ℕ → TraceJob} {job : TraceJob} {state next : State}
  {database : Database} {label : Label} {overtaken : Bool}

theorem conflicts_comm (first second : RequestLogModel) : first.conflicts second = second.conflicts first := by
  simp only [RequestLogModel.conflicts, eq_comm]

/-- A delivery goes on and leaves the database alone; with its phase goes whether it is overtaken. -/
inductive Advance (decimal : Char → Option (Fin 10)) (job : TraceJob) (database : Database) (overtaken : Bool) :
    Phase → Bool → Phase → Prop
  | skip : Advance decimal job database overtaken .idle overtaken .skipped
  | begin (tenantId : Uuid) : Advance decimal job database overtaken .idle overtaken (.reading tenantId)
  | found (tenantId : Uuid) : Advance decimal job database overtaken (.reading tenantId) false .skipped
  | missing (tenantId : Uuid) (none : withTraceId database.requests.rows job.traceId = []) :
      Advance decimal job database overtaken (.reading tenantId) false (.creating tenantId)
  | created (tenantId id : Uuid) (row : RequestLogModel)
      (inserted : createRequest decimal database job tenantId id = some row) :
      Advance decimal job database overtaken (.creating tenantId) overtaken (.spanning row)
  | spanned (row : RequestLogModel) (spans : List RequestSpanModel)
    (inserted : createSpans job row.id = some spans) :
      Advance decimal job database overtaken (.spanning row) overtaken (.counting row spans)
  | counted (row : RequestLogModel) (spans : List RequestSpanModel) (usage : TokenUsageModel)
      (inserted : createUsage job row.id = some usage) :
      Advance decimal job database overtaken (.counting row spans) overtaken (.committing row spans usage)
  | failed (phase : Phase) (looked : Bool) (opened : phase.isOpen = true) :
      Advance decimal job database overtaken phase looked .raised

/-- One delivery goes on, or its commit takes effect. -/
inductive Change (decimal : Char → Option (Fin 10)) (jobs : ℕ → TraceJob) (state : State) (label : Label)
    (next : State) : Prop
  | advanced (id : ℕ) (looked : Bool) (phase : Phase)
      (goes : Advance decimal (jobs id) state.database (state.overtaken id) (state.phases id) looked phase)
      (moved : next = { state with
        phases := Function.update state.phases id phase
        overtaken := Function.update state.overtaken id looked })
  | committed (id : ℕ) (row : RequestLogModel) (spans : List RequestSpanModel) (usage : TokenUsageModel)
      (after : Database) (called : label = .commit id) (ready : state.phases id = .committing row spans usage)
      (takes : commit state.database row spans usage = some after)
      (moved : next = { state with database := after, overtaken := fun _ => true }.goto id .committed)

/-- A delivery that has not looked at the committed rows is overtaken as before. -/
theorem Change.of_goto {id : ℕ} {phase : Phase}
    (goes : Advance decimal (jobs id) state.database (state.overtaken id) (state.phases id)
      (state.overtaken id) phase) : Change decimal jobs state label (state.goto id phase) :=
  .advanced id _ phase goes (by rw [Function.update_eq_self]; rfl)

/-- A statement that returns a value lets its delivery go on, and one that raises ends it. -/
theorem Change.of_continueWith {α : Type} {id : ℕ} {value : Option α} {phase : α → Phase}
    (opened : (state.phases id).isOpen = true)
    (goes : ∀ given, value = some given → Advance decimal (jobs id) state.database (state.overtaken id)
      (state.phases id) (state.overtaken id) (phase given)) :
    Change decimal jobs state label (state.continueWith id phase value) := by
  cases value with
  | none => exact .of_goto (.failed _ _ opened)
  | some given => exact .of_goto (goes given rfl)

theorem step_change (stepped : step decimal jobs state label = some next) :
    Change decimal jobs state label next := by
  cases label with
  | start id =>
    simp only [step] at stepped
    split at stepped
    · rename_i phase
      obtain rfl := Option.some.inj stepped
      split
      · exact .of_goto (phase ▸ .skip)
      · rename_i tenantId _
        exact .of_goto (phase ▸ .begin tenantId)
    · contradiction
  | select id =>
    simp only [step] at stepped
    split at stepped
    · rename_i tenantId phase
      obtain rfl := Option.some.inj stepped
      split
      · rename_i none
        exact .advanced id false _ (phase ▸ .missing tenantId none) rfl
      · exact .advanced id false _ (phase ▸ .found tenantId) rfl
      · exact .advanced id false _ (.failed _ _ (by rw [phase]; rfl)) rfl
    · contradiction
  | createRequest id rowId =>
    simp only [step] at stepped
    split at stepped
    · rename_i tenantId phase
      obtain rfl := Option.some.inj stepped
      refine .of_continueWith (by rw [phase]; rfl) fun row inserted => ?_
      rw [phase]
      exact .created tenantId rowId row inserted
    · contradiction
  | createSpans id =>
    simp only [step] at stepped
    split at stepped
    · rename_i row phase
      obtain rfl := Option.some.inj stepped
      refine .of_continueWith (by rw [phase]; rfl) fun spans inserted => ?_
      rw [phase]
      exact .spanned row spans inserted
    · contradiction
  | createUsage id =>
    simp only [step] at stepped
    split at stepped
    · rename_i row spans phase
      obtain rfl := Option.some.inj stepped
      refine .of_continueWith (by rw [phase]; rfl) fun usage inserted => ?_
      rw [phase]
      exact .counted row spans usage inserted
    · contradiction
  | commit id =>
    simp only [step] at stepped
    split at stepped
    · rename_i row spans usage phase
      obtain rfl := Option.some.inj stepped
      split
      · rename_i after takes
        exact .committed id row spans usage after rfl phase takes rfl
      · exact .of_goto (.failed _ _ (by rw [phase]; rfl))
    · contradiction
  | fail id =>
    simp only [step] at stepped
    split at stepped
    · rename_i opened
      obtain rfl := Option.some.inj stepped
      exact .of_goto (.failed _ _ opened)
    · contradiction

/-- The request row of a job. -/
def IsRowOf (decimal : Char → Option (Fin 10)) (job : TraceJob) (row : RequestLogModel) : Prop :=
  ∃ apiKeyId, apiKeyOf decimal job = some apiKeyId ∧ row = requestRow job row.id row.tenantId apiKeyId

theorem isRowOf_of_createRequest {tenantId id : Uuid} {row : RequestLogModel}
    (created : createRequest decimal database job tenantId id = some row) : IsRowOf decimal job row := by
  unfold createRequest at created
  split at created
  · contradiction
  · rename_i apiKeyId parsed
    dsimp only at created
    split at created
    · obtain rfl := Option.some.inj created
      exact ⟨apiKeyId, parsed, rfl⟩
    · contradiction

theorem IsRowOf.traceId_eq {row : RequestLogModel} (rowOf : IsRowOf decimal job row) :
    row.traceId = job.traceId := by
  obtain ⟨apiKeyId, -, same⟩ := rowOf
  rw [same]
  rfl

theorem eq_of_createSpans {id : Uuid} {spans : List RequestSpanModel}
    (created : createSpans job id = some spans) : spans = job.spans.map (spanRow id) := by
  unfold createSpans at created
  dsimp only at created
  split at created
  · exact (Option.some.inj created).symm
  · contradiction

theorem eq_of_createUsage {id : Uuid} {usage : TokenUsageModel}
    (created : createUsage job id = some usage) : usage = usageRow id job.response := by
  unfold createUsage at created
  dsimp only at created
  split at created
  · exact (Option.some.inj created).symm
  · contradiction

/-- A commit that takes effect appends its rows. -/
theorem rows_commit {row : RequestLogModel} {spans : List RequestSpanModel} {usage : TokenUsageModel}
    {after : Database} (takes : commit database row spans usage = some after) :
    after.requests.rows = database.requests.rows ++ [row] ∧ after.spans = database.spans ++ spans ∧
      after.usages = database.usages ++ [usage] := by
  obtain ⟨requests, inserted, rfl⟩ := Option.map_eq_some_iff.mp takes
  exact ⟨(Table.insert_eq_some_iff.mp inserted).2, rfl, rfl⟩

end LlmopsGateway.TracePersistence
