import LlmopsGateway.Soundness.RetryAmplification
import Mathlib.Algebra.Order.Field.Basic
import Mathlib.Tactic.Ring

/-! # What the circuit breaker buys

Half-open, the breaker lets in whoever asks until an outcome is recorded. How many that are depends on how many
calls are in their first attempt at one time, and on nothing else: a cooldown passes between two such bursts,
and a failure in each of them starts the next. What a breaker may still let in is a potential. Failures below
the threshold and first attempts use it up, the cooldown of an open circuit restores it, and a success resets
it. -/

namespace LlmopsGateway.BaseLLMProvider

open Machine CircuitBreaker

variable {settings : Settings} {state next final : State} {label : Label} {before labels : List Label}
  {ids : Finset ℕ} {crowd : ℕ}

section trials

/-- The call is in its first attempt. -/
def trial : Call → ℕ
  | .attempting _ 0 _ => 1
  | _ => 0

/-- The calls that are in their first attempt. -/
def trials (ids : Finset ℕ) (state : State) : ℕ := ∑ id ∈ ids, trial (state.calls id)

theorem trial_le_one (call : Call) : trial call ≤ 1 := by
  unfold trial
  split <;> decide

/-- The attempts that end with a step. -/
def Label.endings : Label → ℕ
  | .succeed _ | .fail .. | .escape _ => 1
  | .tick _ | .arrive .. | .yieldChunk _ | .retry _ => 0

/-- A call let in is in its first attempt until that ends. -/
def Tries (settings : Settings) (state next : State) (label : Label) : Prop :=
  (next.calls = state.calls ∧ admission settings state label = 0) ∨
    ∃ id, label.party = some id ∧ (∀ other, other ≠ id → next.calls other = state.calls other) ∧
      admission settings state label + trial (state.calls id) ≤ label.endings + trial (next.calls id)

theorem tries_goto {between : State} {id : ℕ} {call : Call} (party : label.party = some id)
    (calls : between.calls = state.calls)
    (tried : admission settings state label + trial (state.calls id) ≤ label.endings + trial call) :
    Tries settings state (between.goto id call) label := by
  have here : (between.goto id call).calls id = call := Function.update_self ..
  refine .inr ⟨id, party, fun other different => ?_, ?_⟩
  · exact (Function.update_of_ne different ..).trans (congrFun calls other)
  · rw [here]
    exact tried

theorem tries_of_step (stepped : step settings state label = some next) : Tries settings state next label := by
  cases transits_of_step stepped with
  | tick => exact .inl ⟨rfl, rfl⟩
  | admitted id kind probes idle allowed =>
    refine tries_goto rfl rfl ?_
    rw [idle, admission, if_pos allowed]
    exact Nat.le_refl 1
  | refused id kind idle opened =>
    refine tries_goto rfl rfl ?_
    rw [idle, admission, if_neg opened]
    exact Nat.le_refl 0
  | yielded id attempt yieldedAny phase =>
    refine tries_goto rfl rfl ?_
    rw [phase]
    cases attempt <;> exact Nat.le_refl _
  | failed id failure jitter kind attempt yieldedAny phase =>
    obtain ⟨phase, -, handled⟩ := handleFailure_cases settings state id kind attempt yieldedAny failure jitter
    rw [handled]
    refine tries_goto rfl rfl ?_
    exact (Nat.add_le_add_left (trial_le_one _) 0).trans (Nat.le_add_right ..)
  | retried id kind attempt wake phase =>
    refine tries_goto rfl rfl ?_
    rw [phase]
    exact Nat.le_refl _
  | succeeded | escaped =>
    refine tries_goto rfl rfl ?_
    exact Nat.add_le_add_left (trial_le_one _) 0

theorem Tries.trials_le (tries : Tries settings state next label)
    (listed : ∀ id, label.party = some id → id ∈ ids) :
    admission settings state label + trials ids state ≤ label.endings + trials ids next := by
  rcases tries with ⟨calls, nobody⟩ | ⟨id, party, others, tried⟩
  · rw [trials, trials, calls, nobody]
    omega
  · apply sum_move _ _ (listed id party) _ tried
    exact fun other different => congrArg trial (others other different).symm

end trials

section room

/-- How long ago the latest failure was. -/
def age (state : State) : ℚ := state.failures.head?.elim 0 fun latest => state.clock - latest

/-- What the breaker may still let in before a failure stops it, when at most `crowd` calls are in their first
attempt at one time. -/
def room (settings : Settings) (crowd : ℕ) (ids : Finset ℕ) (state : State) : ℚ :=
  if Tripped settings.circuit state.failures state.clock
    then crowd * (age state / settings.circuit.cooldownSeconds)
  else (settings.circuit.failureThreshold - 1 - state.failures.length : ℕ) + (crowd - trials ids state)

/-- The room of a circuit that has just been closed, with no call in it. -/
def fullRoom (settings : Settings) (crowd : ℕ) : ℚ := (settings.circuit.failureThreshold - 1 : ℕ) + crowd

/-- The breaker has recorded the failures, and they are in the past. -/
structure Dated (settings : Settings) (state : State) : Prop where
  recorded : Recorded settings state
  past : ∀ latest ∈ state.failures.head?, latest ≤ state.clock

theorem clock_le_of_step (stepped : step settings state label = some next) : state.clock ≤ next.clock := by
  cases transits_of_step stepped with
  | tick seconds forward => exact le_add_of_nonneg_right forward
  | failed id failure jitter kind attempt yieldedAny phase =>
    obtain ⟨phase, -, handled⟩ := handleFailure_cases settings state id kind attempt yieldedAny failure jitter
    rw [handled]
    exact le_refl _
  | refused | admitted | yielded | succeeded | retried | escaped => exact le_refl _

theorem Dated.step (dated : Dated settings state) (stepped : step settings state label = some next) :
    Dated settings next := by
  refine ⟨dated.recorded.step stepped, fun latest recorded => ?_⟩
  have forward := clock_le_of_step stepped
  cases moves_of_step stepped with
  | tick | refused | admitted | yielded | retried | escaped => exact (dated.past latest recorded).trans forward
  | succeeded => cases recorded
  | failed =>
    obtain rfl := Option.some.inj recorded
    exact le_refl _

theorem Dated.age_nonneg (dated : Dated settings state) : 0 ≤ age state := by
  unfold age
  cases latest : state.failures.head? with
  | none => exact le_refl _
  | some instant => exact sub_nonneg.mpr (dated.past instant latest)

theorem age_lt_of_tripped (tripped : Tripped settings.circuit state.failures state.clock) :
    age state < settings.circuit.cooldownSeconds := by
  obtain ⟨latest, head⟩ := head?_of_reached tripped.1
  rw [age, head]
  exact tripped.2 latest head

variable (cools : 0 < settings.circuit.cooldownSeconds)

include cools

theorem room_le (crowd : ℕ) (ids : Finset ℕ) (state : State) :
    room settings crowd ids state ≤ fullRoom settings crowd := by
  rw [room, fullRoom]
  split
  · next tripped =>
    have young : age state / settings.circuit.cooldownSeconds ≤ 1 :=
      (div_le_one cools).mpr (age_lt_of_tripped tripped).le
    have spent : crowd * (age state / settings.circuit.cooldownSeconds) ≤ crowd :=
      mul_le_of_le_one_right (Nat.cast_nonneg crowd) young
    exact spent.trans (le_add_of_nonneg_left (Nat.cast_nonneg _))
  · have fewer : ((settings.circuit.failureThreshold - 1 - state.failures.length : ℕ) : ℚ) ≤
        (settings.circuit.failureThreshold - 1 : ℕ) := by
      exact_mod_cast Nat.sub_le ..
    have trying : (0 : ℚ) ≤ trials ids state := Nat.cast_nonneg _
    linarith

theorem Dated.room_nonneg (dated : Dated settings state) (crowded : trials ids state ≤ crowd) :
    0 ≤ room settings crowd ids state := by
  rw [room]
  split
  · exact mul_nonneg (Nat.cast_nonneg _) (div_nonneg dated.age_nonneg cools.le)
  · have crowded : (trials ids state : ℚ) ≤ crowd := by exact_mod_cast crowded
    exact add_nonneg (Nat.cast_nonneg _) (sub_nonneg.mpr crowded)

omit cools in
/-- A step without an outcome moves first attempts only. -/
theorem room_of_unrecorded (failures : next.failures = state.failures) (clock : next.clock = state.clock)
    (tried : admission settings state label + trials ids state ≤ label.endings + trials ids next)
    (closed : Tripped settings.circuit state.failures state.clock → admission settings state label = 0) :
    admission settings state label + room settings crowd ids next ≤
      label.endings + room settings crowd ids state := by
  rw [room, room, age, age, failures, clock]
  split
  · next tripped =>
    rw [closed tripped, Nat.cast_zero, zero_add]
    exact le_add_of_nonneg_left (Nat.cast_nonneg _)
  · have tried : (admission settings state label : ℚ) + trials ids state ≤ label.endings + trials ids next := by
      exact_mod_cast tried
    linarith

/-- The cooldown restores the room for one crowd. -/
theorem room_tick {seconds : ℚ} (forward : 0 ≤ seconds) :
    room settings crowd ids { state with clock := state.clock + seconds } ≤
      room settings crowd ids state + crowd * (seconds / settings.circuit.cooldownSeconds) := by
  have passes : 0 ≤ crowd * (seconds / settings.circuit.cooldownSeconds) :=
    mul_nonneg (Nat.cast_nonneg _) (div_nonneg forward cools.le)
  by_cases tripped : Tripped settings.circuit state.failures state.clock
  · obtain ⟨latest, head⟩ := head?_of_reached tripped.1
    have older : age { state with clock := state.clock + seconds } = age state + seconds := by
      rw [age, age, head]
      exact add_sub_right_comm ..
    rw [room, room, if_pos tripped, older]
    split
    · rw [add_div, mul_add]
    · next cooled =>
      have spent : settings.circuit.failureThreshold - 1 - state.failures.length = 0 := by
        have reached := tripped.1
        omega
      have due : settings.circuit.cooldownSeconds ≤ age state + seconds := by
        rw [← older]
        by_contra young
        refine cooled ⟨tripped.1, fun other recorded => ?_⟩
        obtain rfl := Option.some.inj (head.symm.trans recorded)
        rw [age, head] at young
        exact lt_of_not_ge young
      have restored : (crowd : ℚ) ≤ crowd * ((age state + seconds) / settings.circuit.cooldownSeconds) :=
        le_mul_of_one_le_right (Nat.cast_nonneg _) ((one_le_div cools).mpr due)
      rw [← mul_add, ← add_div, spent, Nat.cast_zero, zero_add]
      exact (sub_le_self _ (Nat.cast_nonneg _)).trans restored
  · have still : ¬ Tripped settings.circuit state.failures (state.clock + seconds) := by
      rintro ⟨reached, young⟩
      refine tripped ⟨reached, fun latest recorded => lt_of_le_of_lt ?_ (young latest recorded)⟩
      exact sub_le_sub_right (le_add_of_nonneg_right forward) latest
    rw [room, room, if_neg tripped, if_neg still]
    exact le_add_of_nonneg_right passes

/-- A failure uses the room up, or as much of it as it ends attempts. -/
theorem Dated.room_failed (dated : Dated settings state) (crowded : trials ids state ≤ crowd)
    (failures : next.failures = state.clock :: state.failures) (clock : next.clock = state.clock)
    (tried : trials ids state ≤ 1 + trials ids next) :
    room settings crowd ids next ≤ room settings crowd ids state := by
  by_cases reached : settings.circuit.failureThreshold ≤ state.failures.length + 1
  · have tripped : Tripped settings.circuit next.failures next.clock := by
      rw [failures, clock]
      refine ⟨reached, fun latest recorded => ?_⟩
      obtain rfl := Option.some.inj recorded
      rwa [sub_self]
    have fresh : age next = 0 := by
      rw [age, failures, clock]
      exact sub_self _
    rw [room, if_pos tripped, fresh, zero_div, mul_zero]
    exact dated.room_nonneg cools crowded
  · have below : ¬ Tripped settings.circuit next.failures next.clock := by
      rw [failures]
      exact fun tripped => reached tripped.1
    have under : ¬ Tripped settings.circuit state.failures state.clock :=
      fun tripped => reached (tripped.1.trans (Nat.le_succ _))
    have spent : ((settings.circuit.failureThreshold - 1 - next.failures.length : ℕ) : ℚ) + 1 =
        (settings.circuit.failureThreshold - 1 - state.failures.length : ℕ) := by
      rw [failures, List.length_cons]
      norm_cast
      omega
    have tried : (trials ids state : ℚ) ≤ 1 + trials ids next := by exact_mod_cast tried
    rw [room, room, if_neg below, if_neg under]
    linarith

end room

section run

def Label.succeeds : Label → Bool
  | .succeed _ => true
  | _ => false

def Label.escapes : Label → Bool
  | .escape _ => true
  | _ => false

/-- A success closes the circuit, and a call that is cancelled or abandoned leaves without an outcome. -/
def credit (settings : Settings) (crowd : ℕ) (label : Label) : ℚ :=
  if label.succeeds then fullRoom settings crowd else if label.escapes then 1 else 0

theorem sum_credit (settings : Settings) (crowd : ℕ) (labels : List Label) :
    (labels.map (credit settings crowd)).sum =
      labels.countP Label.succeeds * fullRoom settings crowd + labels.countP Label.escapes := by
  induction labels with
  | nil => simp
  | cons label rest ih =>
    rw [List.map_cons, List.sum_cons, ih, List.countP_cons, List.countP_cons]
    cases label with
    | succeed | escape =>
      simp only [credit, Label.succeeds, Label.escapes, if_true, Bool.false_eq_true, if_false]
      push_cast
      ring
    | tick | arrive | yieldChunk | fail | retry => exact zero_add _

/-- The room, and the cooldowns that have passed. -/
def potential (settings : Settings) (crowd : ℕ) (ids : Finset ℕ) (state : State) : ℚ :=
  room settings crowd ids state - crowd * (state.clock / settings.circuit.cooldownSeconds)

theorem admission_paid (cools : 0 < settings.circuit.cooldownSeconds) (dated : Dated settings state)
    (crowded : trials ids state ≤ crowd) (listed : ∀ id, label.party = some id → id ∈ ids)
    (stepped : step settings state label = some next) :
    admission settings state label + potential settings crowd ids next ≤
      credit settings crowd label + potential settings crowd ids state := by
  have tried := (tries_of_step stepped).trials_le listed
  have closed : Tripped settings.circuit state.failures state.clock → admission settings state label = 0 :=
    fun tripped => admission_of_opened (dated.recorded.circuitState_eq_opened_iff.mpr tripped) label
  have roomy : 0 ≤ room settings crowd ids state := dated.room_nonneg cools crowded
  have unrecorded (failures : next.failures = state.failures) (clock : next.clock = state.clock)
      (credited : (label.endings : ℚ) = credit settings crowd label) :
      admission settings state label + potential settings crowd ids next ≤
        credit settings crowd label + potential settings crowd ids state := by
    have moved : admission settings state label + room settings crowd ids next ≤
        label.endings + room settings crowd ids state := room_of_unrecorded failures clock tried closed
    rw [potential, potential, clock, ← credited]
    linarith
  cases transits_of_step stepped with
  | tick seconds forward =>
    have restored : room settings crowd ids { state with clock := state.clock + seconds } ≤
        room settings crowd ids state + crowd * (seconds / settings.circuit.cooldownSeconds) :=
      room_tick cools forward
    have nobody : (admission settings state (.tick seconds) : ℚ) = 0 := Nat.cast_zero
    have unpaid : credit settings crowd (.tick seconds) = 0 := rfl
    rw [potential, potential, nobody, unpaid, add_div, mul_add]
    linarith
  | succeeded id =>
    have full := room_le cools crowd ids ((state.recordSuccess id).goto id .succeeded)
    have nobody : (admission settings state (.succeed id) : ℚ) = 0 := Nat.cast_zero
    have refilled : credit settings crowd (.succeed id) = fullRoom settings crowd := rfl
    have still : ((state.recordSuccess id).goto id .succeeded).clock = state.clock := rfl
    rw [potential, potential, nobody, refilled, still]
    linarith
  | failed id failure jitter kind attempt yieldedAny phase =>
    obtain ⟨phase, -, handled⟩ := handleFailure_cases settings state id kind attempt yieldedAny failure jitter
    rw [handled] at tried ⊢
    have spent : room settings crowd ids ((state.recordFailure settings id).goto id phase) ≤
        room settings crowd ids state :=
      dated.room_failed cools crowded rfl rfl ((Nat.le_add_left ..).trans tried)
    have nobody : (admission settings state (.fail id failure jitter) : ℚ) = 0 := Nat.cast_zero
    have unpaid : credit settings crowd (.fail id failure jitter) = 0 := rfl
    have still : ((state.recordFailure settings id).goto id phase).clock = state.clock := rfl
    rw [potential, potential, nobody, unpaid, still]
    linarith
  | escaped => exact unrecorded rfl rfl Nat.cast_one
  | refused | admitted | yielded | retried => exact unrecorded rfl rfl Nat.cast_zero

/-- What a run lets in at most, when so many calls are in their first attempt at one time. -/
def allowance (settings : Settings) (crowd : ℕ) (labels : List Label) (elapsed : ℚ) : ℚ :=
  (labels.countP Label.succeeds + 1) * fullRoom settings crowd + labels.countP Label.escapes +
    crowd * (elapsed / settings.circuit.cooldownSeconds)

theorem admissions_le (cools : 0 < settings.circuit.cooldownSeconds) (dated : Dated settings state)
    (ran : run? (step settings) state labels = some final)
    (crowded : peak (step settings) (trials (parties labels)) state labels ≤ crowd) :
    (total (step settings) (admission settings) state labels : ℚ) ≤
      allowance settings crowd labels (final.clock - state.clock) := by
  have paid : total (step settings) (admission settings) state labels +
      potential settings crowd (parties labels) final ≤
        (labels.map (credit settings crowd)).sum + potential settings crowd (parties labels) state := by
    apply total_cast_le (fun state label => trials (parties labels) state ≤ crowd ∧
      ∀ id, label.party = some id → id ∈ parties labels) (Dated settings) _ _ _ _ _ dated _ ran
    · exact fun state label next dated => dated.step
    · intro state label next dated guarded stepped
      exact admission_paid cools dated guarded.1 guarded.2 stepped
    · apply (along_of_peak_le crowded).and
      apply along_of_forall
      exact fun label listed id party => mem_parties_of_mem listed party
  have ended : Dated settings final :=
    reachable_invariant (Dated settings) (fun _ _ _ dated => dated.step) dated ran
  have left : 0 ≤ room settings crowd (parties labels) final :=
    ended.room_nonneg cools (le_of_peak_le crowded ran)
  have full := room_le cools crowd (parties labels) state
  rw [sum_credit, potential, potential] at paid
  rw [allowance, sub_div, mul_sub]
  linarith

/-- However calls overlap, from any state reached: what the breaker lets in is paid for by successes, calls that
leave without an outcome and the time, at one crowd for each cooldown, and the upstream attempts follow. A
provider that never succeeds is let alone but for one crowd in each cooldown. -/
theorem load_contained (cools : 0 < settings.circuit.cooldownSeconds)
    (reached : run? (step settings) {} before = some state)
    (ran : run? (step settings) state labels = some final) :
    let crowd := peak (step settings) (trials (parties labels)) state labels
    let allowed := allowance settings crowd labels (final.clock - state.clock)
    (total (step settings) (admission settings) state labels : ℚ) ≤ allowed ∧
      (final.implStarts : ℚ) ≤ state.implStarts + (settings.maxRetries.toNat + 1) * allowed +
        ∑ id ∈ parties labels, retriesLeft settings (state.calls id) := by
  intro crowd allowed
  have initial : Dated settings {} := by
    refine ⟨records_initial, fun latest recorded => ?_⟩
    cases recorded
  have dated : Dated settings state :=
    reachable_invariant (Dated settings) (fun _ _ _ dated => dated.step) initial reached
  have admitted := admissions_le cools dated ran (le_refl crowd)
  refine ⟨admitted, ?_⟩
  have attempts : (final.implStarts : ℚ) ≤ state.implStarts +
      (settings.maxRetries.toNat + 1) * total (step settings) (admission settings) state labels +
        ∑ id ∈ parties labels, retriesLeft settings (state.calls id) := by
    exact_mod_cast implStarts_le ran
  have retried := mul_le_mul_of_nonneg_left admitted (Nat.cast_nonneg (settings.maxRetries.toNat + 1))
  push_cast at retried
  linarith

/-- Two calls at a time, before the circuit opens and again when the cooldown is over. -/
def bursts : List Label :=
  [.arrive 1 .complete, .arrive 2 .stream, .fail 1 {} 0, .fail 2 {} 0, .tick 30, .arrive 3 .complete,
    .arrive 4 .stream]

theorem load_contained_bursts : 0 < fragile.circuit.cooldownSeconds ∧ ∃ state final,
    run? (step fragile) {} [.arrive 0 .complete, .succeed 0] = some state ∧
      run? (step fragile) state bursts = some final ∧
      total (step fragile) (admission fragile) state bursts = 4 ∧
      allowance fragile (peak (step fragile) (trials (parties bursts)) state bursts) bursts
        (final.clock - state.clock) = 4 ∧
      (total (step fragile) (admission fragile) state bursts : ℚ) ≤ 4 := by
  have cools : 0 < fragile.circuit.cooldownSeconds := by decide +kernel
  have checked : (run? (step fragile) {} [.arrive 0 .complete, .succeed 0]).any (fun state =>
      (run? (step fragile) state bursts).any fun final =>
        decide (total (step fragile) (admission fragile) state bursts = 4 ∧
          allowance fragile (peak (step fragile) (trials (parties bursts)) state bursts) bursts
            (final.clock - state.clock) = 4)) = true := by
    decide +kernel
  obtain ⟨state, reached, checked⟩ := (Option.any_eq_true ..).mp checked
  obtain ⟨final, ran, checked⟩ := (Option.any_eq_true ..).mp checked
  obtain ⟨admitted, allowed⟩ := of_decide_eq_true checked
  have contained := (load_contained cools reached ran).1
  rw [allowed] at contained
  exact ⟨cools, state, final, reached, ran, admitted, allowed, contained⟩

end run


end LlmopsGateway.BaseLLMProvider
