import LlmopsGateway.Machine.Run
import LlmopsGateway.Model.BaseProvider
import LlmopsGateway.Soundness.FailureHistory
import Mathlib.Tactic.NormNum

/-! # What the breaker guarantees to overlapping calls

The failure history of the machine is recorded in the breaker at every reachable state. A call
that arrives is refused exactly while the history is tripped, whoever else is in flight: an
outstanding probe has no say in it. A retry starts whatever the history is.
-/

namespace LlmopsGateway.BaseLLMProvider

open Machine CircuitBreaker

variable {settings : Settings}

/-- The call whose arrival a label is. -/
def Label.arrival : Label → Option ℕ
  | .arrive id _ => some id
  | _ => none

/-- While a half-open probe is outstanding, a call that arrives gets `ProviderUnavailableError` and
starts no upstream call. -/
def SingleProbe (settings : Settings) (state : State) (label : Label) : Prop :=
  ∀ next ∈ step settings state label, ∀ id ∈ label.arrival, state.probes ≠ [] →
    next.calls id = .unavailable ∧ next.implStarts = state.implStarts

instance (state : State) (label : Label) : Decidable (SingleProbe settings state label) :=
  inferInstanceAs (Decidable (∀ next ∈ step settings state label, _))

/-- Calls arrive next to an outstanding probe only while another failure has the circuit tripped. -/
def TrippedDuringProbe (settings : Settings) (state : State) : Label → Prop
  | .arrive id _ => state.calls id = .idle → state.probes ≠ [] →
      Tripped settings.circuit state.failures state.clock
  | _ => True

/-- No attempt starts while the breaker's state is open. -/
def OpenNotCalled (settings : Settings) (state : State) (label : Label) : Prop :=
  ∀ next ∈ step settings state label,
    next.implStarts ≠ state.implStarts → state.circuitState settings ≠ .opened

instance (state : State) (label : Label) : Decidable (OpenNotCalled settings state label) :=
  inferInstanceAs (Decidable (∀ next ∈ step settings state label, _))

/-- A backoff sleep ends in a retry only while the circuit is not tripped. -/
def RetriesUntripped (settings : Settings) (state : State) : Label → Prop
  | .retry id => ∀ kind attempt wake, state.calls id = .sleeping kind attempt wake →
      wake ≤ state.clock → ¬ Tripped settings.circuit state.failures state.clock
  | _ => True

/-- The breaker has recorded exactly the failures of the history. -/
def Recorded (settings : Settings) (state : State) : Prop :=
  Records settings.circuit state.circuit state.failures

theorem Recorded.circuitState_eq_opened_iff {state : State} (recorded : Recorded settings state) :
    state.circuitState settings = .opened ↔ Tripped settings.circuit state.failures state.clock :=
  Records.effectiveState_eq_opened_iff recorded

/-- The two ways `complete` and `stream` begin. -/
theorem enter_cases (settings : Settings) (state : State) (id : ℕ) (kind : Kind) :
    (state.circuitState settings = .opened ∧ enter settings state id kind = state.goto id .unavailable) ∨
      (state.circuitState settings ≠ .opened ∧
        ∃ probes, enter settings state id kind = { state with probes }.startImpl id kind 0) := by
  by_cases opened : state.circuitState settings = .opened
  · have refused : state.circuit.allowRequest settings.circuit state.clock = false :=
      bne_eq_false_iff_eq.mpr opened
    exact .inl ⟨opened, by simp only [enter, refused, Bool.false_eq_true, if_false]⟩
  · have allowed : state.circuit.allowRequest settings.circuit state.clock = true :=
      bne_iff_ne.mpr opened
    refine .inr ⟨opened, ?_⟩
    simp only [enter, allowed, if_true]
    exact ⟨_, rfl⟩

/-- A failure is recorded, and the call does not end as one that was turned away. -/
theorem handleFailure_cases (settings : Settings) (state : State) (id : ℕ) (kind : Kind)
    (attempt : ℕ) (yieldedAny : Bool) (failure : Failure) (jitter : ℚ) :
    ∃ phase, phase ≠ .unavailable ∧ handleFailure settings state id kind attempt yieldedAny failure jitter =
      (state.recordFailure settings id).goto id phase := by
  unfold handleFailure
  split
  · exact ⟨.failed, nofun, rfl⟩
  · split
    · exact ⟨.escaped, nofun, rfl⟩
    · exact ⟨.sleeping .., nofun, rfl⟩

/-- All that a step can do. -/
inductive Moves (settings : Settings) (state : State) : Label → State → Prop
  | tick (seconds : ℚ) : Moves settings state (.tick seconds) { state with clock := state.clock + seconds }
  | refused (id : ℕ) (kind : Kind) (opened : state.circuitState settings = .opened) :
    Moves settings state (.arrive id kind) (state.goto id .unavailable)
  | admitted (id : ℕ) (kind : Kind) (probes : List ℕ) (allowed : state.circuitState settings ≠ .opened) :
    Moves settings state (.arrive id kind) ({ state with probes }.startImpl id kind 0)
  | yielded (id attempt : ℕ) :
    Moves settings state (.yieldChunk id) (state.goto id (.attempting .stream attempt true))
  | succeeded (id : ℕ) : Moves settings state (.succeed id) ((state.recordSuccess id).goto id .succeeded)
  | failed (id : ℕ) (failure : Failure) (jitter : ℚ) (phase : Call) (tried : phase ≠ .unavailable) :
    Moves settings state (.fail id failure jitter) ((state.recordFailure settings id).goto id phase)
  | retried (id : ℕ) (kind : Kind) (attempt : ℕ) (wake : ℚ)
    (asleep : state.calls id = .sleeping kind attempt wake)
    (awake : wake ≤ state.clock) : Moves settings state (.retry id) (state.startImpl id kind (attempt + 1))
  | escaped (id : ℕ) : Moves settings state (.escape id) (state.goto id .escaped)

theorem moves_of_step {state next : State} {label : Label}
    (stepped : step settings state label = some next) : Moves settings state label next := by
  cases label with
  | tick seconds =>
    simp only [step] at stepped
    split at stepped
    · obtain rfl := Option.some.inj stepped
      exact .tick seconds
    · contradiction
  | arrive id kind =>
    simp only [step] at stepped
    split at stepped
    · obtain rfl := Option.some.inj stepped
      rcases enter_cases settings state id kind with ⟨opened, entered⟩ | ⟨allowed, probes, entered⟩
      · rw [entered]
        exact .refused id kind opened
      · rw [entered]
        exact .admitted id kind probes allowed
    · contradiction
  | yieldChunk id =>
    simp only [step] at stepped
    split at stepped
    · obtain rfl := Option.some.inj stepped
      exact .yielded id _
    · contradiction
  | succeed id =>
    simp only [step] at stepped
    split at stepped
    · obtain rfl := Option.some.inj stepped
      exact .succeeded id
    · contradiction
  | fail id failure jitter =>
    simp only [step] at stepped
    split at stepped
    · next kind attempt yieldedAny phase =>
      split at stepped
      · obtain rfl := Option.some.inj stepped
        obtain ⟨phase, tried, handled⟩ :=
          handleFailure_cases settings state id kind attempt yieldedAny failure jitter
        rw [handled]
        exact .failed id failure jitter phase tried
      · contradiction
    · contradiction
  | retry id =>
    simp only [step] at stepped
    split at stepped
    · next kind attempt wake asleep =>
      split at stepped
      · next awake =>
        obtain rfl := Option.some.inj stepped
        exact .retried id kind attempt wake asleep awake
      · contradiction
    · contradiction
  | escape id =>
    simp only [step] at stepped
    split at stepped
    · obtain rfl := Option.some.inj stepped
      exact .escaped id
    · obtain rfl := Option.some.inj stepped
      exact .escaped id
    · contradiction

/-- What a step does to the breaker, its history and the upstream. -/
inductive Effect (settings : Settings) (state next : State) : Label → Prop
  | none (label : Label) (circuit : next.circuit = state.circuit)
      (failures : next.failures = state.failures) (unstarted : next.implStarts = state.implStarts) :
      Effect settings state next label
  | admitted (id : ℕ) (kind : Kind) (allowed : state.circuitState settings ≠ .opened)
      (circuit : next.circuit = state.circuit) (failures : next.failures = state.failures) :
      Effect settings state next (.arrive id kind)
  | retried (id : ℕ) (kind : Kind) (attempt : ℕ) (wake : ℚ)
      (phase : state.calls id = .sleeping kind attempt wake) (awake : wake ≤ state.clock)
      (circuit : next.circuit = state.circuit) (failures : next.failures = state.failures)
      (started : next.implStarts = state.implStarts + 1) : Effect settings state next (.retry id)
  | succeeded (label : Label) (circuit : next.circuit = state.circuit.recordSuccess)
      (failures : next.failures = []) (unstarted : next.implStarts = state.implStarts) :
      Effect settings state next label
  | failed (label : Label)
      (circuit : next.circuit = state.circuit.recordFailure settings.circuit state.clock)
      (failures : next.failures = state.clock :: state.failures)
      (unstarted : next.implStarts = state.implStarts) : Effect settings state next label

theorem step_effect {state next : State} {label : Label}
    (stepped : step settings state label = some next) : Effect settings state next label := by
  cases moves_of_step stepped with
  | tick | refused | yielded | escaped => exact .none _ rfl rfl rfl
  | admitted id kind probes allowed => exact .admitted id kind allowed rfl rfl
  | succeeded id => exact .succeeded _ rfl rfl rfl
  | failed id failure jitter phase tried => exact .failed _ rfl rfl rfl
  | retried id kind attempt wake asleep awake => exact .retried id kind attempt wake asleep awake rfl rfl rfl

/-- Every step keeps the history recorded. -/
theorem Recorded.step {state next : State} {label : Label} (recorded : Recorded settings state)
    (stepped : step settings state label = some next) : Recorded settings next := by
  unfold Recorded
  cases step_effect stepped with
  | none _ circuit failures unstarted =>
    rw [circuit, failures]
    exact recorded
  | admitted id kind allowed circuit failures =>
    rw [circuit, failures]
    exact recorded
  | retried id kind attempt wake phase awake circuit failures started =>
    rw [circuit, failures]
    exact recorded
  | succeeded _ circuit failures unstarted =>
    rw [circuit, failures]
    exact records_recordSuccess state.circuit
  | failed _ circuit failures unstarted =>
    rw [circuit, failures]
    exact Records.recordFailure recorded state.clock

/-- An arrival is refused exactly while the history is tripped, and starts nothing then. -/
theorem Recorded.refused_iff {state : State} (recorded : Recorded settings state) (id : ℕ) (kind : Kind) :
    ((enter settings state id kind).calls id = .unavailable ∧
      (enter settings state id kind).implStarts = state.implStarts) ↔
      Tripped settings.circuit state.failures state.clock := by
  rw [← recorded.circuitState_eq_opened_iff]
  rcases enter_cases settings state id kind with ⟨opened, entered⟩ | ⟨allowed, probes, entered⟩
  · rw [entered]
    exact iff_of_true ⟨Function.update_self .., rfl⟩ opened
  · rw [entered]
    refine iff_of_false ?_ allowed
    rintro ⟨-, unstarted⟩
    exact Nat.succ_ne_self _ unstarted

theorem Recorded.singleProbe_iff {state : State} (recorded : Recorded settings state) (label : Label) :
    SingleProbe settings state label ↔ TrippedDuringProbe settings state label := by
  constructor
  · intro single
    cases label with
    | arrive id kind =>
      intro idle probing
      have stepped : enter settings state id kind ∈
          BaseLLMProvider.step settings state (.arrive id kind) := by
        simp only [BaseLLMProvider.step, idle, Option.mem_some_iff]
      exact (recorded.refused_iff id kind).mp (single _ stepped id rfl probing)
    | _ => trivial
  · intro tripped next stepped id arrival probing
    cases label with
    | arrive other kind =>
      obtain rfl := Option.some.inj arrival
      simp only [BaseLLMProvider.step, Option.mem_def] at stepped
      split at stepped
      · next idle =>
        obtain rfl := Option.some.inj stepped
        exact (recorded.refused_iff other kind).mpr (tripped idle probing)
      · contradiction
    | _ => contradiction

/-- In every interleaving: while a probe is outstanding nobody else gets through exactly when calls
that arrive in the meantime find the circuit tripped by another failure. -/
theorem run_singleProbe_iff (settings : Settings) (labels : List Label) :
    Along (step settings) (SingleProbe settings) {} labels ↔
      Along (step settings) (TrippedDuringProbe settings) {} labels :=
  along_congr (Recorded settings) (fun _ label recorded _ => recorded.singleProbe_iff label)
    (fun _ _ _ recorded _ _ stepped => recorded.step stepped) records_initial (along_true _ labels)

/-- Two calls arrive after the cooldown, one after the other: both reach the upstream. -/
theorem singleProbe_twoProbes :
    ¬ Along (step { maxRetries := 0, circuit := { failureThreshold := 1 } })
      (SingleProbe { maxRetries := 0, circuit := { failureThreshold := 1 } }) {}
      [.arrive 0 .complete, .fail 0 {} 0, .tick 30, .arrive 1 .complete, .arrive 2 .complete] := by
  decide +kernel

/-- Arrivals are checked, so the only step that can start an attempt on an open circuit is a retry. -/
theorem Recorded.openNotCalled_iff {state : State} (recorded : Recorded settings state) (label : Label) :
    OpenNotCalled settings state label ↔ RetriesUntripped settings state label := by
  constructor
  · intro notCalled
    cases label with
    | retry id =>
      intro kind attempt wake phase awake tripped
      have stepped :
          state.startImpl id kind (attempt + 1) ∈ BaseLLMProvider.step settings state (.retry id) := by
        simp only [BaseLLMProvider.step, phase, if_pos awake, Option.mem_some_iff]
      have started : (state.startImpl id kind (attempt + 1)).implStarts ≠ state.implStarts :=
        Nat.succ_ne_self _
      exact notCalled _ stepped started (recorded.circuitState_eq_opened_iff.mpr tripped)
    | _ => trivial
  · intro untripped next stepped started
    cases step_effect stepped with
    | none _ circuit failures unstarted => exact absurd unstarted started
    | admitted id kind allowed circuit failures => exact allowed
    | retried id kind attempt wake phase awake circuit failures _ =>
      rw [Ne, recorded.circuitState_eq_opened_iff]
      exact untripped kind attempt wake phase awake
    | succeeded _ circuit failures unstarted => exact absurd unstarted started
    | failed _ circuit failures unstarted => exact absurd unstarted started

/-- In every interleaving and for every outcome of the attempts: the open circuit is never called
exactly when no retry falls due while the failure history has the circuit tripped. -/
theorem run_openNotCalled_iff (settings : Settings) (labels : List Label) :
    Along (step settings) (OpenNotCalled settings) {} labels ↔
      Along (step settings) (RetriesUntripped settings) {} labels :=
  along_congr (Recorded settings) (fun _ label recorded _ => recorded.openNotCalled_iff label)
    (fun _ _ _ recorded _ _ stepped => recorded.step stepped) records_initial (along_true _ labels)

/-- With two failures to open the circuit and three retries, the second retry of a single call is
sent half a second after its own failure has opened the circuit for thirty. -/
theorem openNotCalled_ownFailures :
    ¬ Along (step { circuit := { failureThreshold := 2 } })
      (OpenNotCalled { circuit := { failureThreshold := 2 } }) {}
      [.arrive 0 .complete, .fail 0 {} 0, .tick (1 / 2), .retry 0, .fail 0 {} 0, .tick 1, .retry 0] := by
  decide +kernel

end LlmopsGateway.BaseLLMProvider
