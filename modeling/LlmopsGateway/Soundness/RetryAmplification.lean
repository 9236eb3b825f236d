import LlmopsGateway.Machine.Amortized
import LlmopsGateway.Soundness.ProviderCircuit

/-! # How far retries multiply the load on a provider

Every call that the breaker lets in brings a budget of one attempt and its retries, and an attempt is started
only from such a budget. So the attempts of all calls together are bounded by the calls let in, and an open
circuit, which lets nobody in but does not stop retries, sees no more attempts than the calls already in
flight have retries left.
-/

namespace LlmopsGateway.BaseLLMProvider

open Machine

variable {settings : Settings} {state next final : State} {label : Label} {labels : List Label}

/-- The attempts a call may still start. A call sleeps only before an attempt. -/
def retriesLeft (settings : Settings) : Call → ℕ
  | .attempting _ attempt _ => (settings.maxRetries - attempt).toNat
  | .sleeping _ attempt _ => 1 + (settings.maxRetries - (attempt + 1)).toNat
  | .idle | .succeeded | .failed | .unavailable | .escaped => 0

/-- The breaker lets a new call in. -/
def admission (settings : Settings) (state : State) : Label → ℕ
  | .arrive _ _ => if state.circuit.allowRequest settings.circuit state.clock then 1 else 0
  | _ => 0

/-- The call that takes a step. -/
def Label.party : Label → Option ℕ
  | .tick _ => none
  | .arrive id _ | .yieldChunk id | .succeed id | .fail id _ _ | .retry id | .escape id => some id

def parties (labels : List Label) : Finset ℕ := (labels.filterMap Label.party).toFinset

theorem mem_parties_of_mem {id : ℕ} (listed : label ∈ labels) (party : label.party = some id) :
    id ∈ parties labels :=
  List.mem_toFinset.mpr (List.mem_filterMap.mpr ⟨label, listed, party⟩)

/-- All that a step can do, with its guards and the phase of the call that takes it. -/
inductive Transits (settings : Settings) (state : State) : Label → State → Prop
  | tick (seconds : ℚ) (forward : 0 ≤ seconds) :
    Transits settings state (.tick seconds) { state with clock := state.clock + seconds }
  | refused (id : ℕ) (kind : Kind) (idle : state.calls id = .idle)
    (opened : ¬ state.circuit.allowRequest settings.circuit state.clock = true) :
    Transits settings state (.arrive id kind) (state.goto id .unavailable)
  | admitted (id : ℕ) (kind : Kind) (probes : List ℕ) (idle : state.calls id = .idle)
    (allowed : state.circuit.allowRequest settings.circuit state.clock = true) :
    Transits settings state (.arrive id kind) ({ state with probes }.startImpl id kind 0)
  | yielded (id attempt : ℕ) (yieldedAny : Bool)
    (phase : state.calls id = .attempting .stream attempt yieldedAny) :
    Transits settings state (.yieldChunk id) (state.goto id (.attempting .stream attempt true))
  | succeeded (id : ℕ) (kind : Kind) (attempt : ℕ) (yieldedAny : Bool)
    (phase : state.calls id = .attempting kind attempt yieldedAny) :
    Transits settings state (.succeed id) ((state.recordSuccess id).goto id .succeeded)
  | failed (id : ℕ) (failure : Failure) (jitter : ℚ) (kind : Kind) (attempt : ℕ) (yieldedAny : Bool)
    (phase : state.calls id = .attempting kind attempt yieldedAny)
    (drawn : 0 ≤ jitter ∧ jitter ≤ backoffJitterSeconds) :
    Transits settings state (.fail id failure jitter)
      (handleFailure settings state id kind attempt yieldedAny failure jitter)
  | retried (id : ℕ) (kind : Kind) (attempt : ℕ) (wake : ℚ)
    (phase : state.calls id = .sleeping kind attempt wake) (awake : wake ≤ state.clock) :
    Transits settings state (.retry id) (state.startImpl id kind (attempt + 1))
  | escaped (id : ℕ)
    (flying : (∃ kind attempt yieldedAny, state.calls id = .attempting kind attempt yieldedAny) ∨
      ∃ kind attempt wake, state.calls id = .sleeping kind attempt wake) :
    Transits settings state (.escape id) (state.goto id .escaped)

theorem transits_of_step (stepped : step settings state label = some next) :
    Transits settings state label next := by
  cases label with
  | tick seconds =>
    simp only [step] at stepped
    split at stepped
    · next forward =>
      obtain rfl := Option.some.inj stepped
      exact .tick seconds forward
    · cases stepped
  | arrive id kind =>
    simp only [step] at stepped
    split at stepped
    · next idle =>
      obtain rfl := Option.some.inj stepped
      rw [enter]
      split
      · next allowed => exact .admitted id kind _ idle allowed
      · next opened => exact .refused id kind idle opened
    · cases stepped
  | yieldChunk id =>
    simp only [step] at stepped
    split at stepped
    · next attempt yieldedAny phase =>
      obtain rfl := Option.some.inj stepped
      exact .yielded id attempt yieldedAny phase
    · cases stepped
  | succeed id =>
    simp only [step] at stepped
    split at stepped
    · next kind attempt yieldedAny phase =>
      obtain rfl := Option.some.inj stepped
      exact .succeeded id kind attempt yieldedAny phase
    · cases stepped
  | fail id failure jitter =>
    simp only [step] at stepped
    split at stepped
    · next kind attempt yieldedAny phase =>
      split at stepped
      · next drawn =>
        obtain rfl := Option.some.inj stepped
        exact .failed id failure jitter kind attempt yieldedAny phase drawn
      · cases stepped
    · cases stepped
  | retry id =>
    simp only [step] at stepped
    split at stepped
    · next kind attempt wake phase =>
      split at stepped
      · next awake =>
        obtain rfl := Option.some.inj stepped
        exact .retried id kind attempt wake phase awake
      · cases stepped
    · cases stepped
  | escape id =>
    simp only [step] at stepped
    split at stepped
    · next kind attempt yieldedAny phase =>
      obtain rfl := Option.some.inj stepped
      exact .escaped id (.inl ⟨kind, attempt, yieldedAny, phase⟩)
    · next kind attempt wake phase =>
      obtain rfl := Option.some.inj stepped
      exact .escaped id (.inr ⟨kind, attempt, wake, phase⟩)
    · cases stepped

/-- A step leaves every call as it is, or moves one call that pays for the attempt it starts. -/
def Spends (settings : Settings) (state next : State) (label : Label) : Prop :=
  (next.calls = state.calls ∧ next.implStarts = state.implStarts) ∨
    ∃ id, label.party = some id ∧ (∀ other, other ≠ id → next.calls other = state.calls other) ∧
      next.implStarts + retriesLeft settings (next.calls id) ≤
        (settings.maxRetries.toNat + 1) * admission settings state label +
          (state.implStarts + retriesLeft settings (state.calls id))

theorem spends_goto (started : ℕ) {between : State} {id : ℕ} {call : Call} (party : label.party = some id)
    (calls : between.calls = state.calls) (starts : between.implStarts = state.implStarts + started)
    (paid : started + retriesLeft settings call ≤
      (settings.maxRetries.toNat + 1) * admission settings state label + retriesLeft settings
        (state.calls id)) :
    Spends settings state (between.goto id call) label := by
  have here : (between.goto id call).calls id = call := Function.update_self ..
  have same : (between.goto id call).implStarts = state.implStarts + started := starts
  refine .inr ⟨id, party, fun other different => ?_, ?_⟩
  · exact (Function.update_of_ne different ..).trans (congrFun calls other)
  · rw [here, same]
    omega

/-- After a failed attempt there is a sleep only if there is a retry to sleep for. -/
theorem handleFailure_spends (settings : Settings) {state : State} {id : ℕ} {kind : Kind} {attempt : ℕ}
    {yieldedAny : Bool} (failure : Failure) (jitter : ℚ)
    (phase : state.calls id = .attempting kind attempt yieldedAny) :
    Spends settings state (handleFailure settings state id kind attempt yieldedAny failure jitter)
      (.fail id failure jitter) := by
  rw [handleFailure]
  split
  · refine spends_goto 0 rfl rfl rfl ?_
    rw [retriesLeft]
    omega
  · next again =>
    have left : (attempt : ℤ) < settings.maxRetries := by
      apply lt_of_not_ge
      exact fun spent => again (.inr (.inr spent))
    split
    · refine spends_goto 0 rfl rfl rfl ?_
      rw [retriesLeft]
      omega
    · refine spends_goto 0 rfl rfl rfl ?_
      rw [phase, retriesLeft, retriesLeft]
      omega

theorem spends_of_step (stepped : step settings state label = some next) :
    Spends settings state next label := by
  cases transits_of_step stepped with
  | tick => exact .inl ⟨rfl, rfl⟩
  | admitted id kind probes idle allowed =>
    refine spends_goto 1 rfl rfl rfl ?_
    rw [retriesLeft, admission, if_pos allowed]
    omega
  | refused | succeeded | escaped =>
    refine spends_goto 0 rfl rfl rfl ?_
    rw [retriesLeft]
    omega
  | yielded id attempt yieldedAny phase =>
    refine spends_goto 0 rfl rfl rfl ?_
    rw [phase, retriesLeft, retriesLeft]
    omega
  | failed id failure jitter kind attempt yieldedAny phase =>
    exact handleFailure_spends settings failure jitter phase
  | retried id kind attempt wake phase =>
    refine spends_goto 1 rfl rfl rfl ?_
    rw [phase, retriesLeft, retriesLeft]
    omega

theorem implStarts_le (ran : run? (step settings) state labels = some final) :
    final.implStarts ≤ state.implStarts +
      (settings.maxRetries.toNat + 1) * total (step settings) (admission settings) state labels +
        ∑ id ∈ parties labels, retriesLeft settings (state.calls id) := by
  have paid : total (step settings) (fun _ _ => 0) state labels +
      (final.implStarts + ∑ id ∈ parties labels, retriesLeft settings (final.calls id)) ≤
      total (step settings) (fun state label =>
        (settings.maxRetries.toNat + 1) * admission settings state label)
          state labels +
        (state.implStarts + ∑ id ∈ parties labels, retriesLeft settings (state.calls id)) := by
    apply total_le_of_potential (fun _ => True)
      (fun state => state.implStarts + ∑ id ∈ parties labels, retriesLeft settings (state.calls id))
      (fun _ _ => 0) _ (fun _ _ _ _ _ => trivial) _ trivial ran
    intro state next label listed _ stepped
    rw [Nat.zero_add]
    rcases spends_of_step stepped with ⟨calls, starts⟩ | ⟨id, party, others, spent⟩
    · rw [calls, starts]
      exact Nat.le_add_left ..
    · rw [← Nat.add_assoc] at spent ⊢
      apply sum_move _ _ (mem_parties_of_mem listed party) _ spent
      exact fun other different => congrArg (retriesLeft settings) (others other different)
  rw [total_mul] at paid
  omega

theorem admission_of_opened (opened : state.circuitState settings = .opened) (label : Label) :
    admission settings state label = 0 := by
  cases label with
  | arrive id kind =>
    rw [admission, CircuitBreaker.allowRequest, if_neg]
    rw [bne_iff_ne, not_not]
    exact opened
  | tick | yieldChunk | succeed | fail | retry | escape => rfl

/-- However calls overlap: the attempts of a run are paid for by the calls the breaker lets in during the run,
each with one attempt and its retries, and by the retries that calls already in flight have left. While the
circuit is open there is nothing but the latter. -/
theorem attempts_bounded (ran : run? (step settings) state labels = some final) :
    final.implStarts ≤ state.implStarts +
        (settings.maxRetries.toNat + 1) * total (step settings) (admission settings) state labels +
          ∑ id ∈ parties labels, retriesLeft settings (state.calls id) ∧
      (Along (step settings) (fun state _ => state.circuitState settings = .opened) state labels →
        final.implStarts ≤ state.implStarts + ∑ id ∈ parties labels,
          retriesLeft settings (state.calls id)) := by
  have bound := implStarts_le ran
  refine ⟨bound, fun opened => ?_⟩
  have nobody : total (step settings) (admission settings) state labels = 0 :=
    total_eq_zero (opened.imp fun state label opened => admission_of_opened opened label)
  rw [nobody] at bound
  omega

/-- One failure opens the circuit, and there is one retry. -/
def fragile : Settings := { maxRetries := 1, circuit := { failureThreshold := 1 } }

/-- The call whose failure opens the circuit, its retry, and a call that arrives in between. -/
def opening : List Label := [.arrive 0 .complete, .fail 0 {} 0]

def whileOpened : List Label := [.tick (1 / 2), .arrive 1 .complete, .retry 0]

theorem attempts_bounded_opened : ∃ state final, run? (step fragile) {} opening = some state ∧
    run? (step fragile) state whileOpened = some final ∧ final.implStarts = 2 ∧
    final.implStarts ≤ state.implStarts + ∑ id ∈ parties whileOpened, retriesLeft fragile (state.calls id) := by
  have opened : (run? (step fragile) {} opening).any (fun state => decide (Along (step fragile)
      (fun state _ => state.circuitState fragile = .opened) state whileOpened)) = true := by
    decide +kernel
  have attempts : (run? (step fragile) {} (opening ++ whileOpened)).map State.implStarts = some 2 := by
    decide +kernel
  obtain ⟨final, all, started⟩ := Option.map_eq_some_iff.mp attempts
  obtain ⟨state, before, ran⟩ := run?_append_iff.mp all
  rw [before, Option.any_some] at opened
  exact ⟨state, final, before, ran, started, (attempts_bounded ran).2 (of_decide_eq_true opened)⟩

end LlmopsGateway.BaseLLMProvider
