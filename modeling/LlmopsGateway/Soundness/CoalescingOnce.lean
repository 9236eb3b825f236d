import LlmopsGateway.Soundness.CoalescingLock
import Mathlib.Algebra.GroupWithZero.Nat

/-! # When identical requests cost one upstream call

With Redis healthy, every upstream call successful and every winner done within its lock TTL and
the wait budget, a run stays in one of two situations: nobody has won the lock yet, or one winner
has and everybody else is short of `acquire` or waiting for at least as long as the winner needs.
Only one step leaves them. The `finally` block gives the lock back before the backfill has
written the response, so a call that missed the cache earlier and reaches its `SET NX` only now
wins the lock once more.
-/

namespace LlmopsGateway.Coalescing

open Machine

variable {ρ : Type} {settings : Settings}

/-- Redis answers, the upstream succeeds and the cached entry does not expire. -/
def Label.Healthy : Label ρ → Prop
  | .expireExact => False
  | .exactGet _ answered | .poll _ answered | .store _ answered => answered = true
  | .acquire _ reply | .release _ reply => reply = .ok
  | .complete _ result => result.isSome = true
  | _ => True

instance : (label : Label ρ) → Decidable label.Healthy
  | .expireExact => isFalse id
  | .exactGet _ answered | .poll _ answered | .store _ answered =>
    inferInstanceAs (Decidable (answered = true))
  | .acquire _ reply | .release _ reply => inferInstanceAs (Decidable (reply = .ok))
  | .complete _ result => inferInstanceAs (Decidable (result.isSome = true))
  | .tick _ | .arrive _ | .semanticGet .. => isTrue trivial

/-- The phases from a call's `SET NX` to the end of its backfill. -/
def Call.inFlight : Call ρ → Bool
  | .calling _ | .releasing _ | .backfill _ => true
  | _ => false

/-- No winner is in flight at the end of its lock TTL or of the wait budget. -/
def WinnerInTime (settings : Settings) (state : State ρ) : Prop :=
  ∀ id since, state.acquiredAt id = some since → (state.calls id).inFlight = true →
    state.clock < since + settings.lockTtlMs ∧ state.clock < since + settings.waitMs

/-- The circumstances under which one upstream call is to suffice. -/
def Favourable (settings : Settings) (state : State ρ) (label : Label ρ) : Prop :=
  label.Healthy ∧ ∀ next, step settings state label = some next → WinnerInTime settings next

/-- No call that has missed the cache sends its `SET NX` after a release of the lock. -/
def NoLateAcquire (state : State ρ) : Label ρ → Prop
  | .acquire id _ => state.calls id = .acquire → state.releases = 0
  | _ => True

/-- The phases that hold neither a lock nor a wait deadline. -/
def Call.passive : Call ρ → Bool
  | .waiting .. | .calling _ | .releasing _ | .backfill _ => false
  | _ => true

/-- A call other than the winner: passive, or waiting at least as long as the winner may take. -/
def Bystander (settings : Settings) (since : ℕ) (call : Call ρ) : Prop :=
  call.passive = true ∨ ∃ deadline wake, call = .waiting deadline wake ∧ since + settings.waitMs ≤ deadline

theorem Call.inFlight_of_passive {call : Call ρ} (passive : call.passive = true) : call.inFlight = false := by
  cases call <;> first | rfl | cases passive

theorem Call.inFlight_of_upstream {call : Call ρ}
    (phase : call = .calling true ∨ ∃ response, call = .releasing (some response)) :
    call.inFlight = true := by
  rcases phase with rfl | ⟨response, rfl⟩ <;> rfl

/-- No bystander is in flight. -/
theorem Bystander.grounded {since : ℕ} {call : Call ρ} (bystander : Bystander settings since call) :
    call.inFlight = false := by
  rcases bystander with passive | ⟨deadline, wake, rfl, -⟩
  · exact Call.inFlight_of_passive passive
  · rfl

/-- How far the winner has come, and what the two Redis keys hold then. -/
inductive Winner (settings : Settings) (state : State ρ) (id since : ℕ) : Prop
  | upstream (phase : state.calls id = .calling true ∨ ∃ response, state.calls id = .releasing (some response))
      (held : state.lock = some ⟨since + settings.lockTtlMs, id⟩) (unreleased : state.releases = 0)
  | backfilling (response : ρ) (phase : state.calls id = .backfill response)
      (free : state.lock = none) (released : state.releases ≠ 0)
  | stored (phase : state.calls id = .done) (cached : state.exact.isSome = true)
      (free : state.lock = none) (released : state.releases ≠ 0)

structure Won (settings : Settings) (state : State ρ) (id since : ℕ) : Prop where
  once : state.upstreamCalls = 1
  acquired : state.acquiredAt id = some since
  past : since ≤ state.clock
  inTime : WinnerInTime settings state
  winner : Winner settings state id since
  others : ∀ other, other ≠ id → Bystander settings since (state.calls other)

structure Quiet (state : State ρ) : Prop where
  unspent : state.upstreamCalls = 0
  free : state.lock = none
  unreleased : state.releases = 0
  calls : ∀ id, (state.calls id).passive = true

/-- At most one winner so far, and nobody else upstream. -/
def Collapsed (settings : Settings) (state : State ρ) : Prop :=
  Quiet state ∨ ∃ id since, Won settings state id since

theorem Collapsed.upstreamCalls_le {state : State ρ} (collapsed : Collapsed settings state) :
    state.upstreamCalls ≤ 1 := by
  rcases collapsed with quiet | ⟨id, since, won⟩
  · rw [quiet.unspent]
    exact Nat.zero_le 1
  · exact Nat.le_of_eq won.once

/-- Until the response is cached the winner is still in flight. -/
theorem Winner.inFlight_of_missed {state : State ρ} {id since : ℕ}
    (winner : Winner settings state id since) (missed : state.exact.isSome = false) :
    (state.calls id).inFlight = true := by
  cases winner with
  | upstream phase held unreleased => exact Call.inFlight_of_upstream phase
  | backfilling response phase free released => rw [phase]; rfl
  | stored phase cached free released =>
    rw [missed] at cached
    contradiction

theorem Winner.done_or_inFlight {state : State ρ} {id since : ℕ} (winner : Winner settings state id since) :
    state.calls id = .done ∨ (state.calls id).inFlight = true := by
  cases winner with
  | upstream phase held unreleased => exact .inr (Call.inFlight_of_upstream phase)
  | backfilling response phase free released => exact .inr (by rw [phase]; rfl)
  | stored phase cached free released => exact .inl phase

theorem Winner.of_calling {state : State ρ} {id since : ℕ} {won : Bool}
    (winner : Winner settings state id since) (phase : state.calls id = .calling won) :
    won = true ∧ state.lock = some ⟨since + settings.lockTtlMs, id⟩ ∧ state.releases = 0 := by
  cases winner with
  | upstream reached held unreleased => simp_all
  | backfilling response reached free released => simp_all
  | stored reached cached free released => simp_all

theorem Winner.of_releasing {state : State ρ} {id since : ℕ} {result : Option ρ}
    (winner : Winner settings state id since) (phase : state.calls id = .releasing result) :
    ∃ response, result = some response := by
  cases winner with
  | upstream reached held unreleased => simp_all
  | backfilling response reached free released => simp_all
  | stored reached cached free released => simp_all

theorem Winner.of_backfill {state : State ρ} {id since : ℕ} {response : ρ}
    (winner : Winner settings state id since) (phase : state.calls id = .backfill response) :
    state.lock = none ∧ state.releases ≠ 0 := by
  cases winner with
  | upstream reached held unreleased => simp_all
  | backfilling response reached free released => exact ⟨free, released⟩
  | stored reached cached free released => simp_all

/-- A call that is neither in flight nor done is not the winner. -/
theorem Won.ne_winner {state : State ρ} {winner since id : ℕ} (won : Won settings state winner since)
    (unfinished : state.calls id ≠ .done) (grounded : (state.calls id).inFlight = false) :
    id ≠ winner := by
  rintro rfl
  rcases won.winner.done_or_inFlight with phase | flying
  · exact unfinished phase
  · rw [grounded] at flying
    contradiction

/-- A bystander in flight does not exist. -/
theorem Won.winner_of_inFlight {state : State ρ} {winner since id : ℕ}
    (won : Won settings state winner since) (flying : (state.calls id).inFlight = true) :
    id = winner := by
  by_contra different
  exact Bool.false_ne_true ((won.others id different).grounded.symm.trans flying)

/-- While the winner is not done, a waiter's deadline is still ahead. -/
theorem Won.before_deadline {state : State ρ} {winner since deadline : ℕ}
    (won : Won settings state winner since) (flying : (state.calls winner).inFlight = true)
    (late : since + settings.waitMs ≤ deadline) : state.clock < deadline :=
  Nat.lt_of_lt_of_le (won.inTime winner since won.acquired flying).2 late

/-- Another call may move between bystander phases. -/
theorem Won.goto {state : State ρ} {winner since id : ℕ} {next : Call ρ}
    (won : Won settings state winner since) (different : id ≠ winner)
    (bystander : Bystander settings since next) : Won settings (state.goto id next) winner since := by
  have unmoved : (state.goto id next).calls winner = state.calls winner :=
    State.goto_calls_of_ne _ _ _ different.symm
  have others : ∀ other, other ≠ winner → Bystander settings since ((state.goto id next).calls other) :=
    (Function.forall_update_iff state.calls fun other call => other ≠ winner →
      Bystander settings since call).mpr
      ⟨fun _ => bystander, fun other _ => won.others other⟩
  refine ⟨won.once, won.acquired, won.past, fun other at' acquired flying => ?_, ?_, others⟩
  · have same : other = winner := by
      by_contra foreign
      exact Bool.false_ne_true ((others other foreign).grounded.symm.trans flying)
    subst same
    rw [unmoved] at flying
    exact won.inTime other at' acquired flying
  · cases won.winner with
    | upstream phase held unreleased => exact .upstream (by rwa [unmoved]) held unreleased
    | backfilling response phase free released =>
      exact .backfilling response (by rwa [unmoved]) free released
    | stored phase cached free released => exact .stored (by rwa [unmoved]) cached free released

theorem Quiet.goto {state : State ρ} (quiet : Quiet state) {id : ℕ} {next : Call ρ}
    (passive : next.passive = true) : Quiet (state.goto id next) := by
  refine ⟨quiet.unspent, quiet.free, quiet.unreleased, ?_⟩
  exact (Function.forall_update_iff state.calls fun _ call => call.passive = true).mpr
    ⟨passive, fun other _ => quiet.calls other⟩

/-- The step of a call that only moves it to a passive phase. -/
theorem Collapsed.goto {state : State ρ} (collapsed : Collapsed settings state) {id : ℕ}
    {next : Call ρ} (unfinished : state.calls id ≠ .done)
    (grounded : (state.calls id).inFlight = false) (passive : next.passive = true) :
    Collapsed settings (state.goto id next) := by
  rcases collapsed with quiet | ⟨winner, since, won⟩
  · exact .inl (quiet.goto passive)
  · exact .inr ⟨winner, since, won.goto (won.ne_winner unfinished grounded) (.inl passive)⟩

/-- An L1 write changes nothing else. -/
theorem Collapsed.put {state : State ρ} (collapsed : Collapsed settings state) (response : ρ) :
    Collapsed settings (state.put true response) := by
  rcases collapsed with quiet | ⟨winner, since, won⟩
  · exact .inl ⟨quiet.unspent, quiet.free, quiet.unreleased, quiet.calls⟩
  · refine .inr ⟨winner, since, won.once, won.acquired, won.past, won.inTime, ?_, won.others⟩
    cases won.winner with
    | upstream phase held unreleased => exact .upstream phase held unreleased
    | backfilling response phase free released => exact .backfilling response phase free released
    | stored phase cached free released => exact .stored phase rfl free released

theorem Collapsed.tick {state : State ρ} (collapsed : Collapsed settings state) (ms : ℕ)
    (inTime : WinnerInTime settings (state.tick ms)) : Collapsed settings (state.tick ms) := by
  rcases collapsed with quiet | ⟨winner, since, won⟩
  · refine .inl ⟨quiet.unspent, ?_, quiet.unreleased, quiet.calls⟩
    simp only [State.tick, quiet.free, Option.filter_none]
  · have expired (free : state.lock = none) : (state.tick ms).lock = none := by
      simp only [State.tick, free, Option.filter_none]
    refine .inr ⟨winner, since, won.once, won.acquired, Nat.le_add_right_of_le won.past, inTime, ?_,
      won.others⟩
    cases won.winner with
    | upstream phase held unreleased =>
      refine .upstream phase ?_ unreleased
      have alive := (inTime winner since won.acquired (Call.inFlight_of_upstream phase)).1
      exact Option.filter_eq_some_iff.mpr ⟨held, by simpa [State.tick] using alive⟩
    | backfilling response phase free released =>
      exact .backfilling response phase (expired free) released
    | stored phase cached free released => exact .stored phase cached (expired free) released

/-- The first `SET NX` to arrive wins. -/
theorem Quiet.acquire {state : State ρ} (quiet : Quiet state) (id : ℕ)
    (inTime : WinnerInTime settings ((state.setNx settings id).call id true)) :
    Won settings ((state.setNx settings id).call id true) id state.clock := by
  have set : state.setNx settings id =
      { state with
        lock := some ⟨state.clock + settings.lockTtlMs, id⟩
        acquiredAt := Function.update state.acquiredAt id (some state.clock) } := by
    simp only [State.setNx, quiet.free]
  rw [set] at inTime ⊢
  refine ⟨?_, Function.update_self .., Nat.le_refl _, inTime, ?_, fun other different => .inl ?_⟩
  · simp only [State.call, State.goto_upstreamCalls, quiet.unspent]
  · exact .upstream (.inl (State.goto_calls_self ..)) rfl quiet.unreleased
  · have unmoved := State.goto_calls_of_ne
      { state with upstreamCalls := state.upstreamCalls + 1 } id (.calling true) different
    exact (congrArg Call.passive unmoved).trans (quiet.calls other)

/-- A taken lock makes a later `SET NX` wait out the winner. -/
theorem Won.acquire {state : State ρ} {winner since id : ℕ} (won : Won settings state winner since)
    (phase : state.calls id = .acquire) (early : state.releases = 0) :
    Won settings (acquireLock settings state id .ok) winner since := by
  have different : id ≠ winner := won.ne_winner (by rw [phase]; nofun) (by rw [phase]; rfl)
  cases won.winner with
  | upstream winnerPhase held unreleased =>
    have budget := (won.inTime winner since won.acquired (Call.inFlight_of_upstream winnerPhase)).2
    have past := won.past
    have sleeps : state.clock < state.clock + settings.waitMs := by omega
    simp only [acquireLock, held, sleepOrCall, if_pos sleeps]
    exact won.goto different (.inr ⟨_, _, rfl, by omega⟩)
  | backfilling response winnerPhase free released => exact absurd early released
  | stored winnerPhase cached free released => exact absurd early released

/-- A waiter whose poll finds nothing is still within its budget. -/
theorem Won.poll {state : State ρ} {winner since id deadline wake : ℕ}
    (won : Won settings state winner since) (phase : state.calls id = .waiting deadline wake)
    (missed : state.exact.isSome = false) :
    Won settings (sleepOrCall settings state id deadline) winner since := by
  have different : id ≠ winner := won.ne_winner (by rw [phase]; nofun) (by rw [phase]; rfl)
  have late : since + settings.waitMs ≤ deadline := by
    rcases won.others id different with passive | ⟨deadline', wake', phase', late⟩
    · rw [phase] at passive
      contradiction
    · rw [phase] at phase'
      obtain ⟨rfl, rfl⟩ := Call.waiting.inj phase'
      exact late
  have flying := won.winner.inFlight_of_missed missed
  simp only [sleepOrCall, if_pos (won.before_deadline flying late)]
  exact won.goto different (.inr ⟨deadline, _, rfl, late⟩)

/-- The winner's own steps leave the others as they are. -/
theorem Won.advance {state after : State ρ} {winner since : ℕ} {next : Call ρ}
    (won : Won settings state winner since) (calls : after.calls = state.calls)
    (count : after.upstreamCalls = state.upstreamCalls) (clock : after.clock = state.clock)
    (acquired : after.acquiredAt = state.acquiredAt)
    (stage : Winner settings (after.goto winner next) winner since)
    (inTime : WinnerInTime settings (after.goto winner next)) :
    Won settings (after.goto winner next) winner since := by
  refine ⟨count.trans won.once, (congrFun acquired winner).trans won.acquired, ?_, inTime, stage, ?_⟩
  · rw [State.goto_clock, clock]
    exact won.past
  · intro other different
    rw [State.goto_calls_of_ne _ _ _ different, calls]
    exact won.others other different

theorem Collapsed.won_of_inFlight {state : State ρ} (collapsed : Collapsed settings state) {id : ℕ}
    (flying : (state.calls id).inFlight = true) : ∃ since, Won settings state id since := by
  rcases collapsed with quiet | ⟨winner, since, won⟩
  · exact absurd ((Call.inFlight_of_passive (quiet.calls id)).symm.trans flying) Bool.false_ne_true
  · obtain rfl := won.winner_of_inFlight flying
    exact ⟨since, won⟩

/-- The winner's upstream call has succeeded. -/
theorem Collapsed.complete {state : State ρ} (collapsed : Collapsed settings state) {id : ℕ} (response : ρ)
    (phase : state.calls id = .calling true)
    (inTime : WinnerInTime settings (state.goto id (.releasing (some response)))) :
    Collapsed settings (state.goto id (.releasing (some response))) := by
  have flying : (state.calls id).inFlight = true := by rw [phase]; rfl
  obtain ⟨since, won⟩ := collapsed.won_of_inFlight flying
  obtain ⟨-, held, unreleased⟩ := won.winner.of_calling phase
  refine .inr ⟨id, since, won.advance rfl rfl rfl rfl ?_ inTime⟩
  exact .upstream (.inr ⟨response, State.goto_calls_self ..⟩) held unreleased

/-- Whoever calls has won. -/
theorem Collapsed.ne_calling {state : State ρ} (collapsed : Collapsed settings state) (id : ℕ) :
    state.calls id ≠ .calling false := by
  intro phase
  have flying : (state.calls id).inFlight = true := by rw [phase]; rfl
  obtain ⟨since, won⟩ := collapsed.won_of_inFlight flying
  exact absurd (won.winner.of_calling phase).1 (by decide)

theorem Collapsed.release {state : State ρ} (collapsed : Collapsed settings state) {id : ℕ} {result : Option ρ}
    (phase : state.calls id = .releasing result)
    (inTime : WinnerInTime settings (finish (state.delete id) id result)) :
    Collapsed settings (finish (state.delete id) id result) := by
  have flying : (state.calls id).inFlight = true := by rw [phase]; rfl
  obtain ⟨since, won⟩ := collapsed.won_of_inFlight flying
  obtain ⟨response, rfl⟩ := won.winner.of_releasing phase
  refine .inr ⟨id, since, won.advance rfl rfl rfl rfl ?_ inTime⟩
  exact .backfilling response (State.goto_calls_self ..) rfl (Nat.succ_ne_zero _)

theorem Collapsed.backfill {state : State ρ} (collapsed : Collapsed settings state) {id : ℕ} {response : ρ}
    (phase : state.calls id = .backfill response)
    (inTime : WinnerInTime settings ((state.put true response).goto id .done)) :
    Collapsed settings ((state.put true response).goto id .done) := by
  have flying : (state.calls id).inFlight = true := by rw [phase]; rfl
  obtain ⟨since, won⟩ := collapsed.won_of_inFlight flying
  obtain ⟨free, released⟩ := won.winner.of_backfill phase
  refine .inr ⟨id, since, won.advance rfl rfl rfl rfl ?_ inTime⟩
  exact .stored (State.goto_calls_self ..) rfl free released

/-- The first `SET NX` wins, and a later one before the release waits. -/
theorem Collapsed.acquire {state : State ρ} (collapsed : Collapsed settings state) {id : ℕ}
    (phase : state.calls id = .acquire) (early : state.releases = 0)
    (inTime : WinnerInTime settings (acquireLock settings state id .ok)) :
    Collapsed settings (acquireLock settings state id .ok) := by
  rcases collapsed with quiet | ⟨winner, since, won⟩
  · simp only [acquireLock, quiet.free] at inTime ⊢
    exact .inr ⟨id, state.clock, quiet.acquire id inTime⟩
  · exact .inr ⟨winner, since, won.acquire phase early⟩

theorem Collapsed.poll {state : State ρ} (collapsed : Collapsed settings state) {id deadline wake : ℕ}
    (phase : state.calls id = .waiting deadline wake) (missed : state.exact.isSome = false) :
    Collapsed settings (sleepOrCall settings state id deadline) := by
  rcases collapsed with quiet | ⟨winner, since, won⟩
  · have passive := quiet.calls id
    rw [phase] at passive
    contradiction
  · exact .inr ⟨winner, since, won.poll phase missed⟩

/-- One step of a favourable run without a late `SET NX`. -/
theorem Collapsed.step {state next : State ρ} {label : Label ρ} (collapsed : Collapsed settings state)
    (favourable : Favourable settings state label) (early : NoLateAcquire state label)
    (stepped : step settings state label = some next) : Collapsed settings next := by
  obtain ⟨healthy, inTime⟩ := favourable
  replace inTime := inTime next stepped
  cases moves_of_step stepped with
  | tick ms => exact collapsed.tick ms inTime
  | expired => exact healthy.elim
  | arrived id phase | hit id _ phase | missed id _ phase | matched id _ phase | unmatched id phase
  | served id _ _ _ phase =>
    exact collapsed.goto (by rw [phase]; nofun) (by rw [phase]; rfl) rfl
  | acquired id reply phase =>
    obtain rfl : reply = .ok := healthy
    exact collapsed.acquire phase (early phase) inTime
  | unserved id answered deadline wake phase nothing =>
    obtain rfl : answered = true := healthy
    exact collapsed.poll phase nothing
  | completed id result phase =>
    obtain ⟨response, rfl⟩ := Option.isSome_iff_exists.mp healthy
    exact collapsed.complete response phase inTime
  | finished id result phase => exact absurd phase (collapsed.ne_calling id)
  | released id reply result phase =>
    obtain rfl : reply = .ok := healthy
    exact collapsed.release phase inTime
  | backfilled id answered response phase =>
    obtain rfl : answered = true := healthy
    exact collapsed.backfill phase inTime
  | writtenBack id answered response phase =>
    obtain rfl : answered = true := healthy
    have unmoved : (state.put true response).calls id = .writeBack response := phase
    exact (collapsed.put response).goto (by rw [unmoved]; nofun) (by rw [unmoved]; rfl) rfl

/-- A late `SET NX` finds the lock free and calls the upstream again. -/
theorem Collapsed.late_acquire {state : State ρ} (collapsed : Collapsed settings state) {id : ℕ}
    (late : state.releases ≠ 0) : (acquireLock settings state id .ok).upstreamCalls = 2 := by
  rcases collapsed with quiet | ⟨winner, since, won⟩
  · exact absurd quiet.unreleased late
  · have free : state.lock = none := by
      cases won.winner with
      | upstream phase held unreleased => exact absurd unreleased late
      | backfilling response phase free released => exact free
      | stored phase cached free released => exact free
    simp only [acquireLock, free, State.setNx, State.call, State.goto_upstreamCalls, won.once]

/-- At every step of a favourable run, a second upstream call and a late `SET NX` are the same. -/
theorem Collapsed.upstreamCalls_le_iff {state : State ρ} {label : Label ρ}
    (collapsed : Collapsed settings state) (favourable : Favourable settings state label) :
    (∀ next, Coalescing.step settings state label = some next → next.upstreamCalls ≤ 1) ↔
      NoLateAcquire state label := by
  constructor
  · intro once
    cases label with
    | acquire id reply =>
      obtain rfl : reply = .ok := favourable.1
      intro phase
      by_contra late
      have stepped : Coalescing.step settings state (.acquire id .ok) =
          some (acquireLock settings state id .ok) := by
        simp only [Coalescing.step, phase]
      have bounded := once _ stepped
      rw [collapsed.late_acquire late] at bounded
      contradiction
    | _ => trivial
  · intro early next stepped
    exact (collapsed.step favourable early stepped).upstreamCalls_le

theorem State.setNx_counts (state : State ρ) (id : ℕ) :
    (state.setNx settings id).clock = state.clock ∧
      (state.setNx settings id).upstreamCalls = state.upstreamCalls := by
  unfold State.setNx
  split <;> exact ⟨rfl, rfl⟩

theorem sleepOrCall_counts (state : State ρ) (id deadline : ℕ) :
    (sleepOrCall settings state id deadline).clock = state.clock ∧
      state.upstreamCalls ≤ (sleepOrCall settings state id deadline).upstreamCalls := by
  unfold sleepOrCall
  split
  · exact ⟨rfl, Nat.le_refl _⟩
  · exact ⟨rfl, Nat.le_succ _⟩

theorem acquireLock_counts (state : State ρ) (id : ℕ) (reply : Reply) :
    (acquireLock settings state id reply).clock = state.clock ∧
      state.upstreamCalls ≤ (acquireLock settings state id reply).upstreamCalls := by
  have set : ((state.setNx settings id).call id true).clock = state.clock ∧
      state.upstreamCalls ≤ ((state.setNx settings id).call id true).upstreamCalls := by
    obtain ⟨clock, calls⟩ := State.setNx_counts state id
    exact ⟨clock, Nat.le_succ_of_le (Nat.le_of_eq calls.symm)⟩
  unfold acquireLock
  split
  · exact ⟨rfl, Nat.le_succ _⟩
  · exact set
  · split
    · exact set
    · exact sleepOrCall_counts ..

/-- What a step adds to the clock. -/
def Label.elapsed : Label ρ → ℕ
  | .tick ms => ms
  | _ => 0

/-- No step turns the clock or the upstream-call counter back. -/
theorem step_counts {state next : State ρ} {label : Label ρ}
    (stepped : step settings state label = some next) :
    next.clock = state.clock + label.elapsed ∧ state.upstreamCalls ≤ next.upstreamCalls := by
  cases moves_of_step stepped with
  | acquired => exact acquireLock_counts ..
  | unserved => exact sleepOrCall_counts ..
  | finished id result => cases result <;> exact ⟨rfl, Nat.le_refl _⟩
  | released id reply result => cases result <;> cases reply <;> exact ⟨rfl, Nat.le_refl _⟩
  | backfilled id answered | writtenBack id answered => cases answered <;> exact ⟨rfl, Nat.le_refl _⟩
  | tick | expired | arrived | hit | missed | matched | unmatched | served | completed =>
    exact ⟨rfl, Nat.le_refl _⟩

/-- Healthy runs shorter than both durations are favourable whatever their interleaving. -/
theorem favourable_of_short {state : State ρ} {labels : List (Label ρ)}
    (healthy : ∀ label ∈ labels, label.Healthy)
    (lockTtl : state.clock + (labels.map Label.elapsed).sum < settings.lockTtlMs)
    (wait : state.clock + (labels.map Label.elapsed).sum < settings.waitMs) :
    Along (step settings) (Favourable settings) state labels := by
  induction labels generalizing state with
  | nil => trivial
  | cons label rest ih =>
    rw [List.map_cons, List.sum_cons] at lockTtl wait
    refine ⟨⟨healthy label (List.mem_cons_self ..), fun next stepped => ?_⟩, fun next stepped => ?_⟩
    · intro id since acquired flying
      have := (step_counts stepped).1
      omega
    · have := (step_counts stepped).1
      refine ih (fun other member => healthy other (List.mem_cons_of_mem _ member)) ?_ ?_ <;> omega

/-- Over every interleaving of any number of identical calls: in favourable circumstances the
upstream is called at most once exactly when no `SET NX` comes after a release. -/
theorem upstreamCalls_le_one_iff (settings : Settings) (exact : Option ρ) (labels : List (Label ρ))
    (final : State ρ) (favourable : Along (step settings) (Favourable settings) (.initial exact) labels)
    (ran : run? (step settings) (.initial exact) labels = some final) :
    final.upstreamCalls ≤ 1 ↔ Along (step settings) NoLateAcquire (.initial exact) labels := by
  have quiet : Collapsed settings (State.initial exact) := .inl ⟨rfl, rfl, rfl, fun _ => rfl⟩
  rw [← along_le_iff State.upstreamCalls 1 (fun _ _ _ stepped => (step_counts stepped).2)
    (Nat.zero_le 1) ran]
  refine along_congr (Collapsed settings) (fun _ _ => Collapsed.upstreamCalls_le_iff) ?_ quiet favourable
  intro state label next collapsed here once stepped
  exact collapsed.step here ((collapsed.upstreamCalls_le_iff here).mp once) stepped

/-- Call `1` finds the lock taken, waits and is served from the cache. -/
def joined : List (Label Unit) :=
  [.arrive 0, .exactGet 0 true, .semanticGet 0 none, .acquire 0 .ok,
    .arrive 1, .exactGet 1 true, .semanticGet 1 none, .acquire 1 .ok,
    .tick 40, .complete 0 (some ()), .release 0 .ok, .store 0 true, .tick 10, .poll 1 true]

theorem upstreamCalls_joined : ∃ final, run? (step {}) (.initial none) joined = some final ∧
    (final.upstreamCalls ≤ 1 ↔ Along (step {}) NoLateAcquire (.initial none) joined) := by
  have ran : (run? (step {}) (.initial none) joined).isSome = true := by decide
  obtain ⟨final, ran⟩ := Option.isSome_iff_exists.mp ran
  have favourable : Along (step {}) (Favourable {}) (.initial none) joined :=
    favourable_of_short (by decide) (by decide) (by decide)
  exact ⟨final, ran, upstreamCalls_le_one_iff {} none joined final favourable ran⟩

/-- Call `1` misses the cache in time but sends its `SET NX` just after call `0`'s release. -/
def lateAcquire : List (Label Unit) :=
  [.arrive 0, .exactGet 0 true, .semanticGet 0 none,
    .arrive 1, .exactGet 1 true, .semanticGet 1 none,
    .acquire 0 .ok, .tick 40, .complete 0 (some ()), .release 0 .ok, .acquire 1 .ok]

theorem upstreamCalls_lateAcquire : ∃ final,
    Along (step {}) (Favourable {}) (.initial none) lateAcquire ∧
      run? (step {}) (.initial none) lateAcquire = some final ∧ ¬ final.upstreamCalls ≤ 1 := by
  have ran : (run? (step {}) (.initial none) lateAcquire).map State.upstreamCalls = some 2 := by decide
  obtain ⟨final, ran, twice⟩ := Option.map_eq_some_iff.mp ran
  exact ⟨final, favourable_of_short (by decide) (by decide) (by decide), ran, by omega⟩

end LlmopsGateway.Coalescing
