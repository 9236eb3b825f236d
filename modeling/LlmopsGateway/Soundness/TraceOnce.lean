import LlmopsGateway.Soundness.TraceSteps

/-! # When a trace is persisted once

Deliveries of one job look for its trace id before they insert, and nothing else keeps a second row
out. A delivery that has found none inserts one, so the row it commits is the only one exactly when no
other delivery has committed since it looked.
-/

namespace LlmopsGateway.TracePersistence

open Machine

variable {decimal : Char → Option (Fin 10)} {job : TraceJob} {traceId : String} {state next : State}
  {database : Database}

/-- The token usage booked on requests with this trace id. -/
def usagesOf (database : Database) (traceId : String) : List TokenUsageModel :=
  database.usages.filter fun usage => usage.requestId ∈ (withTraceId database.requests.rows traceId).map (·.id)

/-- At most one request with this trace id, and its token usage counted at most once. -/
structure PersistedOnce (traceId : String) (database : Database) : Prop where
  request : (withTraceId database.requests.rows traceId).length ≤ 1
  usage : (usagesOf database traceId).length ≤ 1

/-- Every request has its token usage, and every usage its request. -/
def Whole (database : Database) : Prop :=
  database.usages.map (·.requestId) = database.requests.rows.map (·.id)

/-- The database after the step has the trace at most once. -/
def KeepsOnce (decimal : Char → Option (Fin 10)) (job : TraceJob) (state : State) (label : Label) : Prop :=
  ∀ next, step decimal (fun _ => job) state label = some next → PersistedOnce job.traceId next.database

/-- The rows a delivery is about to commit. -/
def Phase.rows? : Phase → Option (RequestLogModel × List RequestSpanModel × TokenUsageModel)
  | committing row spans usage => some (row, spans, usage)
  | _ => none

/-- No commit takes effect after another has since the delivery's `SELECT`. -/
def CommitsUnraced (state : State) : Label → Prop
  | .commit id => ∀ rows ∈ (state.phases id).rows?, state.overtaken id = true →
      (commit state.database rows.1 rows.2.1 rows.2.2).isNone
  | _ => True

instance (state : State) (label : Label) : Decidable (CommitsUnraced state label) :=
  match label with
  | .commit id => inferInstanceAs (Decidable (∀ rows ∈ (state.phases id).rows?, state.overtaken id = true →
      (commit state.database rows.1 rows.2.1 rows.2.2).isNone))
  | .start _ | .select _ | .createRequest .. | .createSpans _ | .createUsage _ | .fail _ => isTrue trivial

/-- The requests whose id is that of a request with the trace id are these requests. -/
theorem filter_ids (database : Database) (traceId : String) : database.requests.rows.filter
    (fun row => row.id ∈ (withTraceId database.requests.rows traceId).map (·.id)) =
      withTraceId database.requests.rows traceId := by
  refine List.filter_congr fun row member => decide_eq_decide.mpr ?_
  constructor
  · intro joined
    obtain ⟨other, there, same⟩ := List.mem_map.mp joined
    obtain ⟨there, traced⟩ := List.mem_filter.mp there
    obtain rfl := database.requests.eq_of_conflicts conflicts_comm there member
      (by simp [RequestLogModel.conflicts, same])
    exact of_decide_eq_true traced
  · intro traced
    exact List.mem_map_of_mem (List.mem_filter.mpr ⟨member, decide_eq_true traced⟩)

/-- One usage for each request with the trace id. -/
theorem length_usagesOf (whole : Whole database) (traceId : String) :
    (usagesOf database traceId).length = (withTraceId database.requests.rows traceId).length := by
  have counted := congrArg (fun ids => (ids.filter fun id =>
    decide (id ∈ (withTraceId database.requests.rows traceId).map (·.id))).length) whole
  simp only [List.filter_map, List.length_map] at counted
  rw [← filter_ids, usagesOf]
  exact counted

theorem persistedOnce_iff (whole : Whole database) :
    PersistedOnce traceId database ↔ (withTraceId database.requests.rows traceId).length ≤ 1 :=
  ⟨fun once => once.request, fun one => ⟨one, by rwa [length_usagesOf whole]⟩⟩

/-- What is known of a delivery that has looked for its trace: it saw no row, and there still is none
exactly if it has not been overtaken. -/
def PhaseSound (traceId : String) (requests : List RequestLogModel) (overtaken : Bool) : Phase → Prop
  | .creating _ => overtaken = false ↔ withTraceId requests traceId = []
  | .spanning row => row.traceId = traceId ∧ (overtaken = false ↔ withTraceId requests traceId = [])
  | .counting row _ => row.traceId = traceId ∧ (overtaken = false ↔ withTraceId requests traceId = [])
  | .committing row _ usage => row.traceId = traceId ∧ usage.requestId = row.id ∧
      (overtaken = false ↔ withTraceId requests traceId = [])
  | _ => True

/-- Once there is a row, every delivery that looked before has been overtaken. -/
theorem PhaseSound.overtake {before after : List RequestLogModel} {overtaken : Bool} {phase : Phase}
    (known : PhaseSound traceId before overtaken phase) (present : withTraceId after traceId ≠ []) :
    PhaseSound traceId after true phase := by
  have seen : true = false ↔ withTraceId after traceId = [] := iff_of_false Bool.noConfusion present
  cases phase with
  | creating tenantId => exact seen
  | spanning row => exact ⟨known.1, seen⟩
  | counting row spans => exact ⟨known.1, seen⟩
  | committing row spans usage => exact ⟨known.1, known.2.1, seen⟩
  | idle | reading | skipped | committed | raised => trivial

structure Sound (traceId : String) (state : State) : Prop where
  whole : Whole state.database
  once : (withTraceId state.database.requests.rows traceId).length ≤ 1
  phases : ∀ id, PhaseSound traceId state.database.requests.rows (state.overtaken id) (state.phases id)

theorem PhaseSound.advance {overtaken looked : Bool} {phase later : Phase}
    (known : PhaseSound job.traceId database.requests.rows overtaken phase)
    (goes : Advance decimal job database overtaken phase looked later) :
    PhaseSound job.traceId database.requests.rows looked later := by
  cases goes with
  | missing tenantId none => exact iff_of_true rfl none
  | created tenantId id row inserted => exact ⟨(isRowOf_of_createRequest inserted).traceId_eq, known⟩
  | spanned => exact known
  | counted row spans usage inserted => exact ⟨known.1, eq_of_createUsage inserted ▸ rfl, known.2⟩
  | skip | begin | found | failed => trivial

theorem Sound.advance (sound : Sound job.traceId state) {id : ℕ} {looked : Bool} {phase : Phase}
    (goes : Advance decimal job state.database (state.overtaken id) (state.phases id) looked phase) :
    Sound job.traceId { state with
      phases := Function.update state.phases id phase
      overtaken := Function.update state.overtaken id looked } := by
  refine ⟨sound.whole, sound.once, fun other => ?_⟩
  by_cases same : other = id
  · subst same
    simpa using (sound.phases other).advance goes
  · simpa [same] using sound.phases other

theorem Sound.ended (sound : Sound traceId state) (id : ℕ) : Sound traceId (state.goto id .committed) := by
  refine ⟨sound.whole, sound.once, ?_⟩
  exact (Function.forall_update_iff state.phases fun other phase =>
    PhaseSound traceId state.database.requests.rows (state.overtaken other) phase).mpr
      ⟨trivial, fun other _ => sound.phases other⟩

theorem withTraceId_append {rows : List RequestLogModel} {row : RequestLogModel}
    (traced : row.traceId = traceId) :
    withTraceId (rows ++ [row]) traceId = withTraceId rows traceId ++ [row] := by
  rw [withTraceId, withTraceId, List.filter_append]
  simp [traced]

/-- A commit that takes effect leaves the trace once exactly if the delivery was not overtaken. -/
theorem Sound.commit_iff (sound : Sound traceId state) {id : ℕ} {row : RequestLogModel}
    {spans : List RequestSpanModel} {usage : TokenUsageModel} {after : Database}
    (phase : state.phases id = .committing row spans usage)
    (committed : commit state.database row spans usage = some after) :
    Whole after ∧ withTraceId after.requests.rows traceId ≠ [] ∧
      ((withTraceId after.requests.rows traceId).length ≤ 1 ↔ state.overtaken id = false) := by
  obtain ⟨rows, -, usages⟩ := rows_commit committed
  have known := sound.phases id
  rw [phase] at known
  obtain ⟨traced, joined, fresh⟩ := known
  refine ⟨?_, ?_, ?_⟩
  · rw [Whole, rows, usages, List.map_append, List.map_append, sound.whole]
    simp [joined]
  · rw [rows, withTraceId_append traced]
    simp
  · rw [rows, withTraceId_append traced, fresh, List.length_append, List.length_singleton,
      ← List.length_eq_zero_iff]
    omega

/-- A commit that is not raced makes the row the only one, and every open delivery is overtaken. -/
theorem Sound.commit (sound : Sound traceId state) {id : ℕ} {row : RequestLogModel}
    {spans : List RequestSpanModel} {usage : TokenUsageModel} {after : Database}
    (phase : state.phases id = .committing row spans usage)
    (committed : TracePersistence.commit state.database row spans usage = some after)
    (fresh : state.overtaken id = false) :
    Sound traceId { state with database := after, overtaken := fun _ => true } := by
  obtain ⟨whole, present, once⟩ := sound.commit_iff phase committed
  exact ⟨whole, once.mpr fresh, fun other => (sound.phases other).overtake present⟩

theorem Sound.step (sound : Sound job.traceId state) {label : Label} (unraced : CommitsUnraced state label)
    (stepped : step decimal (fun _ => job) state label = some next) : Sound job.traceId next := by
  cases step_change stepped with
  | advanced id looked phase goes moved => exact moved ▸ sound.advance goes
  | committed id row spans usage after called ready takes moved =>
    subst called
    have fresh : state.overtaken id = false := by
      by_contra overtaken
      have refused := unraced (row, spans, usage) (by rw [ready]; rfl) (Bool.eq_true_of_not_eq_false overtaken)
      rw [takes] at refused
      contradiction
    exact moved ▸ (sound.commit ready takes fresh).ended id

/-- One step: the trace is there at most once afterwards exactly if the commit is not raced. -/
theorem Sound.keepsOnce_iff (sound : Sound job.traceId state) (label : Label) :
    KeepsOnce decimal job state label ↔ CommitsUnraced state label := by
  constructor
  · intro keeps
    cases label with
    | commit id =>
      rintro ⟨row, spans, usage⟩ ready overtaken
      cases phase : state.phases id with
      | committing row spans usage =>
        rw [phase] at ready
        obtain ⟨rfl, rfl, rfl⟩ := ready
        cases committed : TracePersistence.commit state.database row spans usage with
        | none => rfl
        | some after =>
          have stepped : TracePersistence.step decimal (fun _ => job) state (.commit id) =
              some ({ state with database := after, overtaken := fun _ => true }.goto id .committed) := by
            simp only [TracePersistence.step, phase, committed]
          have once := keeps _ stepped
          have fresh := (sound.commit_iff phase committed).2.2.mp once.request
          exact absurd (fresh.symm.trans overtaken) Bool.false_ne_true
      | idle | reading | creating | spanning | counting | skipped | committed | raised =>
        rw [phase] at ready
        contradiction
    | start | select | createRequest | createSpans | createUsage | fail => trivial
  · intro unraced next stepped
    have kept := sound.step unraced stepped
    exact (persistedOnce_iff kept.whole).mpr kept.once

/-- Before any delivery has looked. -/
theorem Sound.initial (whole : Whole database)
    (once : (withTraceId database.requests.rows traceId).length ≤ 1) :
    Sound traceId { database } :=
  ⟨whole, once, fun _ => trivial⟩

/-- Any number of deliveries of a job, interleaved in any way, keep its trace at most once exactly if no
delivery commits after another has committed since it looked. -/
theorem deliveries_once_iff (decimal : Char → Option (Fin 10)) (job : TraceJob) (database : Database)
    (labels : List Label) (whole : Whole database)
    (once : (withTraceId database.requests.rows job.traceId).length ≤ 1) :
    Along (step decimal fun _ => job) (KeepsOnce decimal job) { database } labels ↔
      Along (step decimal fun _ => job) CommitsUnraced { database } labels :=
  along_congr (Sound job.traceId) (fun _ label sound _ => sound.keepsOnce_iff label)
    (fun _ label _ sound _ keeps stepped => sound.step ((sound.keepsOnce_iff label).mp keeps) stepped)
    (Sound.initial whole once) (along_true ..)

/-- The statements of a delivery after its `SELECT`. -/
def writes (id : ℕ) (rowId : Uuid) : List Label :=
  [.createRequest id rowId, .createSpans id, .createUsage id, .commit id]

def Phase.isEnded : Phase → Bool
  | skipped | committed | raised => true
  | _ => false

/-- The statements run up to where the delivery ends, and leave this database. -/
def Leaves (decimal : Char → Option (Fin 10)) (jobs : ℕ → TraceJob) (id : ℕ) (state : State)
    (statements : List Label) (database : Database) : Prop :=
  ∃ labels final, labels <+: statements ∧ run? (TracePersistence.step decimal jobs) state labels = some final ∧
    (final.phases id).isEnded = true ∧ final.database = database

section alone

variable {jobs : ℕ → TraceJob} {id : ℕ} {statements : List Label}

theorem Leaves.cons {label : Label} (leaves : Leaves decimal jobs id next statements database)
    (stepped : TracePersistence.step decimal jobs state label = some next) :
    Leaves decimal jobs id state (label :: statements) database := by
  obtain ⟨labels, final, early, ran, ended, same⟩ := leaves
  exact ⟨label :: labels, final, List.cons_prefix_cons.mpr ⟨rfl, early⟩,
    run?_cons_iff.mpr ⟨next, stepped, ran⟩, ended, same⟩

theorem leaves_last {label : Label} {phase : Phase} (ended : phase.isEnded = true)
    (stepped : TracePersistence.step decimal jobs state label = some (next.goto id phase))
    (same : next.database = database) : Leaves decimal jobs id state (label :: statements) database :=
  ⟨[label], next.goto id phase, ⟨statements, rfl⟩, run?_cons_iff.mpr ⟨_, stepped, rfl⟩,
    (congrArg Phase.isEnded (Function.update_self ..)).trans ended, same⟩

@[simp] theorem phases_goto (state : State) (id : ℕ) (phase : Phase) :
    (state.goto id phase).phases id = phase :=
  Function.update_self ..

/-- A statement that raises leaves the database as it was; otherwise the delivery goes on with its value. -/
theorem Leaves.continueWith {α : Type} {label : Label} (following : α → Phase) {value : Option α}
    {written : α → Option Database}
    (stepped : TracePersistence.step decimal jobs state label = some (state.continueWith id following value))
    (goesOn : ∀ given, value = some given → Leaves decimal jobs id (state.goto id (following given)) statements
      ((written given).getD state.database)) :
    Leaves decimal jobs id state (label :: statements) ((value.bind written).getD state.database) := by
  cases value with
  | none => exact leaves_last rfl stepped rfl
  | some given => exact (goesOn given rfl).cons stepped

theorem leaves_commit {row : RequestLogModel} {spans : List RequestSpanModel} {usage : TokenUsageModel}
    (phase : state.phases id = .committing row spans usage) : Leaves decimal jobs id state [.commit id]
      ((TracePersistence.commit state.database row spans usage).getD state.database) := by
  cases committed : TracePersistence.commit state.database row spans usage with
  | none =>
    have stepped : TracePersistence.step decimal jobs state (.commit id) = some (state.goto id .raised) := by
      simp only [TracePersistence.step, phase, committed]
    exact leaves_last rfl stepped rfl
  | some after =>
    have stepped : TracePersistence.step decimal jobs state (.commit id) =
        some ({ state with database := after, overtaken := fun _ => true }.goto id .committed) := by
      simp only [TracePersistence.step, phase, committed]
    exact leaves_last rfl stepped rfl

/-- From the first `INSERT` on. -/
theorem leaves_writes {tenantId : Uuid} (phase : state.phases id = .creating tenantId) (rowId : Uuid) :
    Leaves decimal jobs id state (writes id rowId)
      (((createRequest decimal state.database (jobs id) tenantId rowId).bind fun row =>
        (createSpans (jobs id) row.id).bind fun spans => (createUsage (jobs id) row.id).bind fun usage =>
          TracePersistence.commit state.database row spans usage).getD state.database) := by
  refine Leaves.continueWith .spanning (by simp only [TracePersistence.step, phase]) fun row _ => ?_
  refine Leaves.continueWith (.counting row) (by simp only [TracePersistence.step, phases_goto])
    fun spans _ => ?_
  refine Leaves.continueWith (.committing row spans) (by simp only [TracePersistence.step, phases_goto])
    fun usage _ => ?_
  exact leaves_commit (phases_goto ..)

/-- From the `SELECT` on. -/
theorem leaves_select {tenantId : Uuid} (phase : state.phases id = .reading tenantId) (rowId : Uuid)
    (parsed : Uuid.parse decimal (jobs id).tenantId.toList = some tenantId) :
    Leaves decimal jobs id state (.select id :: writes id rowId)
      ((persist decimal state.database (jobs id) rowId).getD state.database) := by
  unfold persist
  rw [parsed]
  rcases traced : withTraceId state.database.requests.rows (jobs id).traceId with _ | ⟨row, _ | ⟨other, rest⟩⟩
  · have looked : TracePersistence.step decimal jobs state (.select id) =
        some ({ state with overtaken := Function.update state.overtaken id false }.goto id
          (.creating tenantId)) := by
      simp only [TracePersistence.step, phase, traced]
    refine Leaves.cons ?_ looked
    exact leaves_writes (phases_goto ..) rowId
  · have looked : TracePersistence.step decimal jobs state (.select id) =
        some ({ state with overtaken := Function.update state.overtaken id false }.goto id .skipped) := by
      simp only [TracePersistence.step, phase, traced]
    exact leaves_last rfl looked rfl
  · have looked : TracePersistence.step decimal jobs state (.select id) =
        some ({ state with overtaken := Function.update state.overtaken id false }.goto id .raised) := by
      simp only [TracePersistence.step, phase, traced]
    exact leaves_last rfl looked rfl

/-- A delivery that nothing interferes with does to the database what `persist` does. -/
theorem leaves_persist (decimal : Char → Option (Fin 10)) (jobs : ℕ → TraceJob) (idle : state.phases id = .idle)
    (rowId : Uuid) : Leaves decimal jobs id state (.start id :: .select id :: writes id rowId)
      ((persist decimal state.database (jobs id) rowId).getD state.database) := by
  cases parsed : Uuid.parse decimal (jobs id).tenantId.toList with
  | none =>
    have started : TracePersistence.step decimal jobs state (.start id) = some (state.goto id .skipped) := by
      simp only [TracePersistence.step, idle, parsed]
    refine leaves_last rfl started ?_
    rw [persist, parsed]
    rfl
  | some tenantId =>
    have started : TracePersistence.step decimal jobs state (.start id) =
        some (state.goto id (.reading tenantId)) := by
      simp only [TracePersistence.step, idle, parsed]
    refine Leaves.cons ?_ started
    exact leaves_select (phases_goto ..) rowId parsed

end alone

/-- A traced chat of a tenant. -/
def sampleTenant : Uuid := .ofNat 1

def sampleJob : TraceJob where
  traceId := "trace"
  tenantId := sampleTenant.str
  apiKeyId := none
  request := { model := "m", messages := [⟨.user, "hi"⟩] }
  response := {
    id := "r"
    model := "m"
    provider := "openai"
    message := ⟨.assistant, "hello"⟩
    usage := ⟨1, 1⟩
    costUsd := 0
    traceId := "trace"
    createdAt := 0
    latencyMs := 0 }
  spans := []

def sampleDatabase : Database where
  tenants tenant := tenant = sampleTenant
  apiKeys _ := false
  requests := Table.empty
  spans := []
  usages := []

/-- A delivery, and a redelivery after its commit. -/
def redelivered : List Label := .start 0 :: .select 0 :: writes 0 (.ofNat 2) ++ [.start 1, .select 1]

theorem redelivered_once : Along (step (fun _ => none) fun _ => sampleJob) (KeepsOnce (fun _ => none) sampleJob)
    { database := sampleDatabase } redelivered :=
  (deliveries_once_iff (fun _ => none) sampleJob sampleDatabase redelivered rfl (by decide)).mpr
    (by decide +kernel)

/-- Both deliveries look before either commits. -/
def overlapping : List Label :=
  [.start 0, .start 1, .select 0, .select 1] ++ writes 0 (.ofNat 2) ++ writes 1 (.ofNat 3)

theorem overlapping_twice : Whole sampleDatabase ∧ sampleDatabase.requests.rows = [] ∧
    ∃ final, run? (step (fun _ => none) fun _ => sampleJob) { database := sampleDatabase } overlapping =
      some final ∧
      ¬ PersistedOnce sampleJob.traceId final.database := by
  have rows : (run? (step (fun _ => none) fun _ => sampleJob) { database := sampleDatabase } overlapping).map
      (fun final => (withTraceId final.database.requests.rows sampleJob.traceId).length) =
        some 2 := by decide +kernel
  obtain ⟨final, ran, twice⟩ := Option.map_eq_some_iff.mp rows
  refine ⟨rfl, rfl, final, ran, fun once => ?_⟩
  have one := once.request
  rw [twice] at one
  contradiction

end LlmopsGateway.TracePersistence
