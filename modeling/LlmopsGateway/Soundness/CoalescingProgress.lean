import LlmopsGateway.Machine.Amortized
import LlmopsGateway.Soundness.CoalescingOnce

/-! # No request blocks on another

A call that finds the lock taken polls for a bounded time and then calls the upstream itself, whatever has
become of the winner. Each poll comes a poll interval after the one before, so the wait budget bounds their
number, and with it the steps of a call. A call that is not done is never further from its next step than a
poll interval. -/

namespace LlmopsGateway.Coalescing

open Machine

variable {ρ : Type} {settings : Settings} {state next final : State ρ} {label : Label ρ}
    {labels : List (Label ρ)}
  {id : ℕ}

/-- The call that takes a step. -/
def Label.party : Label ρ → Option ℕ
  | .tick _ | .expireExact => none
  | .arrive id | .exactGet id _ | .semanticGet id _ | .acquire id _ | .poll id _ | .complete id _
  | .release id _
  | .store id _ => some id

/-- How often a waiting call polls from an instant on. -/
def polls (settings : Settings) (deadline fromMs : ℕ) : ℕ :=
  (deadline - fromMs + (settings.pollIntervalMs - 1)) / settings.pollIntervalMs

theorem sleepOrCall_calls {between : State ρ} {other deadline : ℕ} (different : id ≠ other) :
    (sleepOrCall settings between other deadline).calls id = between.calls id := by
  rw [sleepOrCall]
  split
  · exact State.goto_calls_of_ne _ _ _ different
  · exact State.goto_calls_of_ne _ _ _ different

theorem finish_calls {between : State ρ} {other : ℕ} (different : id ≠ other) (result : Option ρ) :
    (finish between other result).calls id = between.calls id := by
  cases result with
  | none => exact State.goto_calls_of_ne _ _ _ different
  | some response => exact State.goto_calls_of_ne _ _ _ different

theorem acquireLock_calls {other : ℕ} (different : id ≠ other) (reply : Reply) :
    (acquireLock settings state other reply).calls id = state.calls id := by
  have won : (((state.setNx settings other).call other true)).calls id = state.calls id := by
    rw [State.call, State.goto_calls_of_ne _ _ _ different]
    exact congrFun (state.setNx_calls other) id
  cases reply with
  | lost => exact State.goto_calls_of_ne _ _ _ different
  | unanswered => exact won
  | ok =>
    rw [acquireLock]
    split
    · exact won
    · exact sleepOrCall_calls different

/-- A step moves no call but its own. -/
theorem step_calls (foreign : label.party ≠ some id) (stepped : step settings state label = some next) :
    next.calls id = state.calls id := by
  have different {other : ℕ} (party : label.party = some other) : id ≠ other :=
    fun same => foreign (same ▸ party)
  cases moves_of_step stepped with
  | tick ms | expired => rfl
  | arrived other phase | hit other answered phase | missed other answered phase | matched other response phase
  | unmatched other phase | completed other result phase | served other answered deadline wake phase =>
    exact State.goto_calls_of_ne _ _ _ (different rfl)
  | backfilled other answered response phase | writtenBack other answered response phase =>
    rw [State.goto_calls_of_ne _ _ _ (different rfl), State.put]
    split <;> rfl
  | acquired other reply phase => exact acquireLock_calls (different rfl) reply
  | unserved other answered deadline wake phase nothing => exact sleepOrCall_calls (different rfl)
  | finished other result phase => exact finish_calls (different rfl) result
  | released other reply result phase =>
    rw [finish_calls (different rfl)]
    split <;> rfl

/-- A waiting call sleeps no longer than a poll interval from now. -/
def WakesSoon (settings : Settings) (id : ℕ) (state : State ρ) : Prop :=
  ∀ deadline wake, state.calls id = .waiting deadline wake → wake ≤ state.clock + settings.pollIntervalMs

theorem sleepOrCall_wakesSoon (state : State ρ) (id deadline : ℕ) :
    WakesSoon settings id (sleepOrCall settings state id deadline) := by
  intro due wake phase
  rw [sleepOrCall] at phase ⊢
  split at phase
  · next early =>
    rw [State.goto_calls_self] at phase
    obtain ⟨rfl, rfl⟩ := Call.waiting.inj phase
    rw [if_pos early, State.goto_clock]
  · rw [State.call, State.goto_calls_self] at phase
    cases phase

theorem acquireLock_wakesSoon (state : State ρ) (id : ℕ) (reply : Reply) :
    WakesSoon settings id (acquireLock settings state id reply) := by
  have won (between : State ρ) : WakesSoon settings id (between.call id true) := by
    intro deadline wake phase
    rw [State.call, State.goto_calls_self] at phase
    cases phase
  cases reply with
  | lost => exact won state
  | unanswered => exact won _
  | ok =>
    rw [acquireLock]
    split
    · exact won _
    · exact sleepOrCall_wakesSoon state id _

theorem wakesSoon_goto {between : State ρ} {call : Call ρ}
    (awake : ∀ deadline wake, call ≠ .waiting deadline wake) :
    WakesSoon settings id (between.goto id call) := by
  intro deadline wake phase
  rw [State.goto_calls_self] at phase
  exact absurd phase (awake deadline wake)

theorem finish_wakesSoon (state : State ρ) (id : ℕ) (result : Option ρ) :
    WakesSoon settings id (finish state id result) := by
  cases result with
  | none => exact wakesSoon_goto (by simp)
  | some response => exact wakesSoon_goto (by simp)

theorem WakesSoon.step (soon : WakesSoon settings id state)
    (stepped : Coalescing.step settings state label = some next) : WakesSoon settings id next := by
  by_cases own : label.party = some id
  · cases moves_of_step stepped with
    | tick ms | expired => cases own
    | arrived other phase | hit other answered phase | missed other answered phase
    | matched other response phase
    | unmatched other phase | completed other result phase | served other answered deadline wake phase
    | backfilled other answered response phase | writtenBack other answered response phase =>
      obtain rfl := Option.some.inj own
      exact wakesSoon_goto (by simp)
    | acquired other reply phase =>
      obtain rfl := Option.some.inj own
      exact acquireLock_wakesSoon state _ reply
    | unserved other answered deadline wake phase nothing =>
      obtain rfl := Option.some.inj own
      exact sleepOrCall_wakesSoon state _ deadline
    | finished other result phase | released other reply result phase =>
      obtain rfl := Option.some.inj own
      exact finish_wakesSoon _ _ result
  · intro deadline wake phase
    rw [step_calls own stepped] at phase
    have later := (step_counts stepped).1
    have ends := soon deadline wake phase
    omega

end LlmopsGateway.Coalescing
