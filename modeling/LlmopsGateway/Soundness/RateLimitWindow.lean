import LlmopsGateway.Machine.Run
import LlmopsGateway.Math.TokenBucket
import LlmopsGateway.Model.RateLimit
import Mathlib.Tactic.NormNum
import Mathlib.Tactic.Positivity
import Mathlib.Tactic.FieldSimp

/-! # How many calls a rate-limit window admits

The bucket in Redis is compared with the ideal bucket of the admissions made so far. The
invariant says that the stored level, refilled, never exceeds the ideal level. `EXEC` keeps it
when the call credits no more time than has passed since the bucket was written, or when that
time alone fills the bucket. The plain `HSET` of a denial keeps it when, in addition, nothing was
admitted after the denied call's `HMGET`. Without these a stale clock reading or a late denial
restores spent tokens.
-/

namespace LlmopsGateway.RateLimit

open Machine TokenBucket

/-- The refill of one clock unit. -/
def refillPerMs (limit : ℕ) : ℚ := limit / 60000

/-- Clock readings as exact instants. -/
def instants (admissions : List ℕ) : List ℚ := admissions.map Nat.cast

/-- The level of the ideal bucket that has served exactly the admissions so far. -/
def State.ideal (limit : ℕ) (state : State) (now : ℕ) : ℚ :=
  level limit (refillPerMs limit) (instants state.admissions) now

/-- In every window of `seconds`, at most `limit + seconds * limit / 60` calls are admitted. -/
def WindowSafe (limit : ℕ) (admissions : List ℕ) : Prop :=
  ∀ startMs seconds : ℚ, 0 ≤ seconds →
    (admittedIn startMs (startMs + 1000 * seconds) (instants admissions) : ℚ) ≤
      limit + seconds * (limit / 60)

/-- The time a call credits is no longer than the bucket it read has existed unwritten, or that
bucket has had the time to fill up since it was written. -/
def Observation.Current (seen : Observation) (limit nowMs clock : ℕ) : Prop :=
  ∀ bucket ∈ seen.raw, nowMs + seen.writtenAt ≤ clock + bucket.lastRefillMs ∨
    (limit : ℚ) ≤ bucket.tokens + ((clock : ℚ) - seen.writtenAt) * refillPerMs limit

instance (seen : Observation) (limit nowMs clock : ℕ) : Decidable (seen.Current limit nowMs clock) :=
  inferInstanceAs (Decidable (∀ bucket ∈ seen.raw, _))

/-- The condition on a bucket write: no over-long credit, and no admission between a denied
call's `HMGET` and its `HSET`. -/
def OnTime (limit : ℕ) (state : State) : Label → Prop
  | .tick _ => True
  | .call id =>
    match state.calls id with
    | .exec nowMs _ version _ =>
        version = state.version → (state.observed id).Current limit nowMs state.clock
    | .hset nowMs _ =>
        (state.observed id).admissions = state.admissions.length ∧
          (state.observed id).Current limit nowMs state.clock
    | _ => True

instance (limit : ℕ) (state : State) : (label : Label) → Decidable (OnTime limit state label)
  | .tick _ => isTrue trivial
  | .call id =>
    match phase : state.calls id with
    | .exec nowMs _ version _ =>
      decidable_of_iff (version = state.version → (state.observed id).Current limit nowMs state.clock)
        (by simp only [OnTime, phase])
    | .hset nowMs _ =>
      decidable_of_iff ((state.observed id).admissions = state.admissions.length ∧
        (state.observed id).Current limit nowMs state.clock) (by simp only [OnTime, phase])
    | .idle | .watch .. | .hmget .. | .unwatch .. | .pexpire _ | .admitted | .exceeded _ =>
      isTrue (by simp only [OnTime, phase])

/-- A bucket reading is sound when its level was covered by the ideal bucket as it was written. -/
def ReadingSound (limit : ℕ) (state : State) (raw : Option Bucket) (writtenAt : ℕ) : Prop :=
  match raw with
  | some bucket => bucket.tokens ≤ state.ideal limit writtenAt ∧ writtenAt ≤ state.clock
  | none => state.ideal limit state.clock = limit

/-- What each call's local variables still say about the bucket. -/
def CallSound (limit : ℕ) (state : State) (id : ℕ) : Prop :=
  match state.calls id with
  | .hmget _ _ version => version ≤ state.version
  | .exec nowMs _ version tokens =>
      version ≤ state.version ∧ 1 ≤ tokens ∧
        tokens = refilled limit nowMs (state.observed id).raw ∧
        (version = state.version → (state.observed id).raw = state.bucket ∧
          (state.observed id).writtenAt = state.writtenAt)
  | .unwatch nowMs tokens | .hset nowMs tokens =>
      tokens = refilled limit nowMs (state.observed id).raw ∧
        (state.observed id).admissions ≤ state.admissions.length ∧
        ((state.observed id).admissions = state.admissions.length →
          ReadingSound limit state (state.observed id).raw (state.observed id).writtenAt)
  | _ => True

structure Sound (limit : ℕ) (state : State) : Prop where
  fair : Fair (limit : ℚ) (refillPerMs limit) (instants state.admissions)
  past : ∀ ms ∈ state.admissions, ms ≤ state.clock
  stored : ReadingSound limit state state.bucket state.writtenAt
  /-- A key with a deadline outlives every admission by the time of two full refills. -/
  outlives : ∀ deadline, state.expiresAt = some deadline →
    ∀ ms ∈ state.admissions, ms + 120000 ≤ deadline
  calls : ∀ id, CallSound limit state id

theorem refillPerMs_nonneg (limit : ℕ) : 0 ≤ refillPerMs limit := by
  unfold refillPerMs
  positivity

theorem ttlMs_eq {limit : ℕ} (positive : 0 < limit) : ttlMs limit = 120000 := by
  have nonzero : (limit : ℚ) ≠ 0 := by exact_mod_cast positive.ne'
  have ratio : capacity limit / refillRate limit * 2000 = (120000 : ℤ) := by
    simp only [capacity, refillRate]
    field_simp
    norm_num
  rw [ttlMs, ratio, Int.floor_intCast]
  rfl

/-- A credit no longer than the time since the write yields no more than that time refills. -/
theorem credited_le {limit nowMs lastRefillMs writtenAt clock : ℕ}
    (elapsed : (writtenAt : ℚ) ≤ clock) (credit : (nowMs : ℚ) + writtenAt ≤ clock + lastRefillMs) :
    max 0 (((nowMs : ℚ) - lastRefillMs) / 1000) * refillRate limit ≤
      ((clock : ℚ) - writtenAt) * refillPerMs limit := by
  have perSecond : refillRate limit = 1000 * refillPerMs limit := by
    simp only [refillRate, refillPerMs]
    ring
  have bounded : max 0 (((nowMs : ℚ) - lastRefillMs) / 1000) * 1000 ≤ (clock : ℚ) - writtenAt := by
    rw [max_mul_of_nonneg _ _ (by norm_num : (0 : ℚ) ≤ 1000)]
    exact max_le (by linarith) (by linarith)
  rw [perSecond, ← mul_assoc]
  exact mul_le_mul_of_nonneg_right bounded (refillPerMs_nonneg limit)

/-- The refill a current reading yields is covered by the ideal bucket. -/
theorem refilled_le_ideal {limit : ℕ} {state : State} {seen : Observation} {nowMs : ℕ}
    (sound : ReadingSound limit state seen.raw seen.writtenAt)
    (current : seen.Current limit nowMs state.clock) :
    refilled limit nowMs seen.raw ≤ state.ideal limit state.clock := by
  obtain ⟨raw, writtenAt, admissions⟩ := seen
  cases raw with
  | none =>
    have full : state.ideal limit state.clock = limit := sound
    rw [full]
    exact min_le_left _ _
  | some bucket =>
    obtain ⟨covered, before⟩ := sound
    have elapsed : (writtenAt : ℚ) ≤ state.clock := by exact_mod_cast before
    rw [State.ideal, level_advance (refillPerMs_nonneg limit) elapsed]
    rcases current bucket rfl with credit | filled
    · have credit : (nowMs : ℚ) + writtenAt ≤ state.clock + bucket.lastRefillMs := by
        exact_mod_cast credit
      exact min_le_min le_rfl (add_le_add covered (credited_le elapsed credit))
    · have full : (limit : ℚ) ≤ state.ideal limit writtenAt +
          ((state.clock : ℚ) - writtenAt) * refillPerMs limit := filled.trans (add_le_add_left covered _)
      exact (min_le_left _ _).trans (le_min le_rfl full)

/-- How the state may change without invalidating what another call remembers. -/
structure Grows (before after : State) : Prop where
  clock : before.clock ≤ after.clock
  version : before.version ≤ after.version
  unchanged : after.version = before.version →
    after.bucket = before.bucket ∧ after.writtenAt = before.writtenAt
  admissions : after.admissions = before.admissions ∨
    before.admissions.length < after.admissions.length

theorem ReadingSound.grow {limit : ℕ} {before after : State} (grows : Grows before after)
    (same : after.admissions = before.admissions) {raw : Option Bucket} {writtenAt : ℕ}
    (sound : ReadingSound limit before raw writtenAt) : ReadingSound limit after raw writtenAt := by
  have idealEq (now : ℕ) : after.ideal limit now = before.ideal limit now := by
    simp only [State.ideal, same]
  cases raw with
  | some bucket => exact ⟨(idealEq writtenAt).symm ▸ sound.1, sound.2.trans grows.clock⟩
  | none =>
    have later : (before.clock : ℚ) ≤ after.clock := by exact_mod_cast grows.clock
    have full : before.ideal limit before.clock = limit := sound
    have rising : before.ideal limit before.clock ≤ before.ideal limit after.clock :=
      level_mono (refillPerMs_nonneg limit) later
    exact (idealEq after.clock).trans
      (le_antisymm (level_le_capacity _) (full ▸ rising))

/-- A call that did not move keeps its knowledge while the rest of the state grows. -/
theorem CallSound.grow {limit : ℕ} {before after : State} (grows : Grows before after) {id : ℕ}
    (call : after.calls id = before.calls id) (observed : after.observed id = before.observed id)
    (sound : CallSound limit before id) : CallSound limit after id := by
  unfold CallSound at sound ⊢
  rw [call, observed]
  generalize before.calls id = phase at sound ⊢
  have denial (nowMs : ℕ) (tokens : ℚ)
      (known : tokens = refilled limit nowMs (before.observed id).raw ∧
        (before.observed id).admissions ≤ before.admissions.length ∧
        ((before.observed id).admissions = before.admissions.length →
          ReadingSound limit before (before.observed id).raw (before.observed id).writtenAt)) :
      tokens = refilled limit nowMs (before.observed id).raw ∧
        (before.observed id).admissions ≤ after.admissions.length ∧
        ((before.observed id).admissions = after.admissions.length →
          ReadingSound limit after (before.observed id).raw (before.observed id).writtenAt) := by
    obtain ⟨computed, bounded, reading⟩ := known
    rcases grows.admissions with same | more
    · rw [same]
      exact ⟨computed, bounded, fun equal => (reading equal).grow grows same⟩
    · exact ⟨computed, by omega, fun equal => by omega⟩
  cases phase with
  | hmget nowMs tries version => exact sound.trans grows.version
  | exec nowMs tries version tokens =>
    obtain ⟨bounded, whole, computed, reading⟩ := sound
    refine ⟨bounded.trans grows.version, whole, computed, fun equal => ?_⟩
    have version : after.version = before.version :=
      le_antisymm (equal ▸ bounded) grows.version
    obtain ⟨bucket, writtenAt⟩ := grows.unchanged version
    rw [bucket, writtenAt]
    exact reading (equal.trans version)
  | unwatch nowMs tokens => exact denial nowMs tokens sound
  | hset nowMs tokens => exact denial nowMs tokens sound
  | idle => trivial
  | watch nowMs tries => trivial
  | pexpire retryAfter => trivial
  | admitted => trivial
  | exceeded retryAfter => trivial

theorem Grows.of_goto {before after : State} (grows : Grows before after) (id : ℕ) (next : Call) :
    Grows before (after.goto id next) :=
  ⟨grows.clock, grows.version, grows.unchanged, grows.admissions⟩

theorem Grows.refl (state : State) : Grows state state :=
  ⟨le_rfl, le_rfl, fun _ => ⟨rfl, rfl⟩, .inl rfl⟩

theorem Grows.trans {first middle last : State} (left : Grows first middle)
    (right : Grows middle last) : Grows first last where
  clock := left.clock.trans right.clock
  version := left.version.trans right.version
  unchanged equal := by
    have upper := right.version
    have lower := left.version
    obtain ⟨bucket, writtenAt⟩ := left.unchanged (by omega)
    obtain ⟨bucket', writtenAt'⟩ := right.unchanged (by omega)
    exact ⟨bucket'.trans bucket, writtenAt'.trans writtenAt⟩
  admissions := by
    rcases left.admissions with same | more
    · rw [← same]
      exact right.admissions
    · rcases right.admissions with same | more'
      · rw [same]
        exact .inr more
      · exact .inr (more.trans more')

theorem grows_tick (state : State) (ms : ℕ) : Grows state (state.tick ms) := by
  unfold State.tick
  split
  · exact ⟨by simp, by simp, by simp, .inl rfl⟩
  · exact ⟨by simp, by simp, by simp, .inl rfl⟩

theorem grows_hset (state : State) (bucket : Bucket) : Grows state (state.hset bucket) :=
  ⟨le_rfl, by simp [State.hset], by simp [State.hset], .inl rfl⟩

theorem grows_pexpire (state : State) (ms : ℕ) : Grows state (state.pexpire ms) := by
  unfold State.pexpire
  split
  · exact ⟨le_rfl, by simp, by simp, .inl rfl⟩
  · exact .refl state

theorem grows_recordAdmission (state : State) : Grows state state.recordAdmission :=
  ⟨le_rfl, le_rfl, fun _ => ⟨rfl, rfl⟩, .inr (Nat.lt_succ_self _)⟩

theorem grows_observe (state : State) (id : ℕ) : Grows state (state.observe id) :=
  ⟨le_rfl, le_rfl, fun _ => ⟨rfl, rfl⟩, .inl rfl⟩

/-- After one call has moved, only what that call now knows remains to be shown. -/
theorem calls_of_goto {limit : ℕ} {before after : State} {id : ℕ} {next : Call}
    (grows : Grows before after) (calls : after.calls = before.calls)
    (observed : ∀ other, other ≠ id → after.observed other = before.observed other)
    (sound : ∀ other, CallSound limit before other)
    (moved : CallSound limit (after.goto id next) id) :
    ∀ other, CallSound limit (after.goto id next) other := by
  intro other
  by_cases same : other = id
  · rw [same]
    exact moved
  · apply (sound other).grow (grows.of_goto id next)
    · rw [State.goto_calls_of_ne _ _ _ same, calls]
    · exact observed other same

/-- Moving a call without touching the key needs nothing but its new knowledge. -/
theorem Sound.goto {limit : ℕ} {state : State} (sound : Sound limit state) {id : ℕ} {next : Call}
    (moved : CallSound limit (state.goto id next) id) : Sound limit (state.goto id next) :=
  ⟨sound.fair, sound.past, sound.stored, sound.outlives,
    calls_of_goto (.refl state) rfl (fun _ _ => rfl) sound.calls moved⟩

theorem tick_clock (state : State) (ms : ℕ) : (state.tick ms).clock = state.clock + ms := by
  unfold State.tick
  split <;> rfl

theorem tick_admissions (state : State) (ms : ℕ) : (state.tick ms).admissions = state.admissions := by
  unfold State.tick
  split <;> rfl

/-- An expired key had not been spent from for two full refills, so it stands for a full bucket. -/
theorem Sound.tick {limit : ℕ} {state : State} (sound : Sound limit state) (ms : ℕ) :
    Sound limit (state.tick ms) := by
  have grows := grows_tick state ms
  refine ⟨tick_admissions state ms ▸ sound.fair, ?_, ?_, ?_, fun id => ?_⟩
  · intro instant member
    rw [tick_admissions] at member
    rw [tick_clock]
    exact (sound.past instant member).trans (Nat.le_add_right ..)
  · by_cases due : state.expiresAt.any (· ≤ state.clock + ms) = true
    · obtain ⟨deadline, present, passed⟩ := (Option.any_eq_true _ _).mp due
      have passed : deadline ≤ state.clock + ms := by simpa using passed
      simp only [State.tick, due, ↓reduceIte, ReadingSound, State.ideal]
      have nonneg : (0 : ℚ) ≤ limit := Nat.cast_nonneg limit
      have twice : (limit : ℚ) ≤ 120000 * refillPerMs limit := by
        simp only [refillPerMs]
        linarith
      apply level_of_idle (refillPerMs_nonneg limit) sound.fair twice
      · intro instant member
        obtain ⟨admitted, spent, rfl⟩ := List.mem_map.mp member
        exact_mod_cast (sound.outlives deadline present admitted spent).trans passed
    · have reading : ReadingSound limit (state.tick ms) state.bucket state.writtenAt :=
        sound.stored.grow grows (tick_admissions state ms)
      simp only [State.tick, due, Bool.false_eq_true, ↓reduceIte] at reading ⊢
      exact reading
  · intro deadline present instant member
    rw [tick_admissions] at member
    apply sound.outlives deadline _ instant member
    unfold State.tick at present
    split at present
    · contradiction
    · exact present
  · apply (sound.calls id).grow grows
    · unfold State.tick; split <;> rfl
    · unfold State.tick; split <;> rfl

/-- `HMGET` decides on the refilled level of the bucket it just read. -/
theorem Sound.hmget {limit : ℕ} {state : State} (sound : Sound limit state) {id nowMs tries version : ℕ}
    (phase : state.calls id = .hmget nowMs tries version) :
    Sound limit ((state.observe id).goto id
      (if refilled limit nowMs state.bucket < 1 then .unwatch nowMs (refilled limit nowMs state.bucket)
        else .exec nowMs tries version (refilled limit nowMs state.bucket))) := by
  have bounded : version ≤ state.version := by
    have known := sound.calls id
    rw [CallSound, phase] at known
    exact known
  refine ⟨sound.fair, sound.past, sound.stored, sound.outlives, ?_⟩
  apply calls_of_goto (grows_observe state id) rfl
    (fun other different => Function.update_of_ne different ..) sound.calls
  rw [CallSound, State.goto_calls_self]
  have seen : (state.observe id).observed id =
      ⟨state.bucket, state.writtenAt, state.admissions.length⟩ := Function.update_self ..
  split_ifs with short
  · simp only [State.goto_observed, seen]
    exact ⟨trivial, le_rfl, fun _ => sound.stored⟩
  · simp only [State.goto_observed, seen]
    exact ⟨bounded, not_lt.mp short, trivial, fun _ => ⟨rfl, rfl⟩⟩

theorem pexpire_of_isSome {state : State} (present : state.bucket.isSome = true) (ms : ℕ) :
    state.pexpire ms =
      { state with expiresAt := some (state.clock + ms), version := state.version + 1 } := by
  rw [State.pexpire, if_pos present]

/-- Admitting on a current reading spends a token that the ideal bucket also has. -/
theorem Sound.exec {limit : ℕ} (positive : 0 < limit) {state : State} (sound : Sound limit state)
    {id nowMs tries version : ℕ} {tokens : ℚ}
    (phase : state.calls id = .exec nowMs tries version tokens) (unmoved : version = state.version)
    (current : (state.observed id).Current limit nowMs state.clock) :
    Sound limit
      (((state.hset ⟨tokens - 1, nowMs⟩).pexpire (ttlMs limit)).recordAdmission.goto id .admitted) := by
  have known := sound.calls id
  rw [CallSound, phase] at known
  obtain ⟨-, whole, computed, reading⟩ := known
  obtain ⟨raw, writtenAt⟩ := reading unmoved
  have covered : tokens ≤ state.ideal limit state.clock := by
    have stored := sound.stored
    rw [← raw, ← writtenAt] at stored
    exact computed ▸ refilled_le_ideal stored current
  have past : ∀ instant ∈ instants state.admissions, instant ≤ (state.clock : ℚ) := by
    intro instant member
    obtain ⟨admitted, spent, rfl⟩ := List.mem_map.mp member
    exact_mod_cast sound.past admitted spent
  have written : (state.hset ⟨tokens - 1, nowMs⟩).bucket.isSome = true := rfl
  have grows := (grows_hset state ⟨tokens - 1, nowMs⟩).trans (grows_pexpire _ (ttlMs limit))
  rw [pexpire_of_isSome written, ttlMs_eq positive] at grows ⊢
  have spent : level (limit : ℚ) (refillPerMs limit)
      (instants (state.clock :: state.admissions)) state.clock =
        state.ideal limit state.clock - 1 := by
    simp only [instants, List.map_cons, level, sub_self, zero_mul, add_zero]
    apply min_eq_right
    have top : state.ideal limit state.clock ≤ limit := level_le_capacity _
    simp only [State.ideal, instants] at top ⊢
    linarith
  refine ⟨⟨whole.trans covered, past, sound.fair⟩, ?_, ⟨?_, le_rfl⟩, ?_, ?_⟩
  · intro instant member
    rcases List.mem_cons.mp member with rfl | member
    · exact le_rfl
    · exact sound.past instant member
  · change tokens - 1 ≤ level (limit : ℚ) (refillPerMs limit)
      (instants (state.clock :: state.admissions)) state.clock
    rw [spent]
    linarith
  · intro deadline present instant member
    cases present
    rcases List.mem_cons.mp member with rfl | member
    · exact le_rfl
    · exact Nat.add_le_add_right (sound.past instant member) _
  · refine calls_of_goto (grows.trans (grows_recordAdmission _)) rfl (fun _ _ => rfl) sound.calls ?_
    rw [CallSound, State.goto_calls_self]
    trivial

/-- A denial writes back a level that the ideal bucket still has. -/
theorem Sound.hset {limit : ℕ} {state : State} (sound : Sound limit state)
    {id nowMs : ℕ} {tokens retryAfter : ℚ} (phase : state.calls id = .hset nowMs tokens)
    (quiet : (state.observed id).admissions = state.admissions.length)
    (current : (state.observed id).Current limit nowMs state.clock) :
    Sound limit ((state.hset ⟨tokens, nowMs⟩).goto id (.pexpire retryAfter)) := by
  have known := sound.calls id
  rw [CallSound, phase] at known
  obtain ⟨computed, -, reading⟩ := known
  refine ⟨sound.fair, sound.past, ⟨?_, le_rfl⟩, sound.outlives, ?_⟩
  · exact computed ▸ refilled_le_ideal (reading quiet) current
  · apply calls_of_goto (grows_hset state ⟨tokens, nowMs⟩) rfl (fun _ _ => rfl) sound.calls
    rw [CallSound, State.goto_calls_self]
    trivial

theorem Sound.pexpire {limit : ℕ} (positive : 0 < limit) {state : State} (sound : Sound limit state)
    (id : ℕ) (retryAfter : ℚ) :
    Sound limit ((state.pexpire (ttlMs limit)).goto id (.exceeded retryAfter)) := by
  have moved : CallSound limit ((state.pexpire (ttlMs limit)).goto id (.exceeded retryAfter)) id := by
    rw [CallSound, State.goto_calls_self]
    trivial
  have grows := grows_pexpire state (ttlMs limit)
  unfold State.pexpire at moved grows ⊢
  split at moved
  · next present =>
    rw [if_pos present] at grows ⊢
    refine ⟨sound.fair, sound.past, sound.stored, ?_, ?_⟩
    · intro deadline same instant member
      cases same
      rw [ttlMs_eq positive]
      exact Nat.add_le_add_right (sound.past instant member) _
    · exact calls_of_goto grows rfl (fun _ _ => rfl) sound.calls moved
  · next absent =>
    rw [if_neg absent]
    exact sound.goto moved

/-- One step of any call or of the clock keeps the comparison with the ideal bucket. -/
theorem Sound.step {limit : ℕ} (positive : 0 < limit) (state : State) (label : Label) (next : State)
    (sound : Sound limit state) (onTime : OnTime limit state label)
    (stepped : step limit 1 state label = some next) : Sound limit next := by
  cases label with
  | tick ms =>
    obtain rfl := Option.some.inj stepped
    exact sound.tick ms
  | call id =>
    simp only [RateLimit.step, advance] at stepped
    simp only [OnTime] at onTime
    have known := sound.calls id
    rw [CallSound] at known
    split at stepped
    · obtain rfl := Option.some.inj stepped
      exact sound.goto (by rw [CallSound, State.goto_calls_self]; trivial)
    · obtain rfl := Option.some.inj stepped
      exact sound.goto (by rw [CallSound, State.goto_calls_self]; exact le_rfl)
    · next nowMs tries version phase =>
      obtain rfl := Option.some.inj stepped
      exact sound.hmget phase
    · next nowMs tries version tokens phase =>
      rw [phase] at onTime known
      split_ifs at stepped with unmoved retry
      · obtain rfl := Option.some.inj stepped
        exact sound.exec positive phase unmoved (onTime unmoved)
      · obtain rfl := Option.some.inj stepped
        exact sound.goto (by rw [CallSound, State.goto_calls_self]; trivial)
      · obtain rfl := Option.some.inj stepped
        exact sound.goto (by rw [CallSound, State.goto_calls_self]; trivial)
    · next nowMs tokens phase =>
      rw [phase] at known
      obtain rfl := Option.some.inj stepped
      exact sound.goto (by rw [CallSound, State.goto_calls_self]; exact known)
    · next nowMs tokens phase =>
      rw [phase] at onTime
      obtain rfl := Option.some.inj stepped
      exact sound.hset phase onTime.1 onTime.2
    · obtain rfl := Option.some.inj stepped
      exact sound.pexpire positive id _
    · contradiction
    · contradiction

theorem sound_initial (limit : ℕ) : Sound limit {} :=
  ⟨trivial, fun _ member => (List.not_mem_nil member).elim, rfl,
    fun _ present => (nomatch present), fun _ => trivial⟩

/-- Fairness of the recorded admissions bounds every window. -/
theorem Sound.windowSafe {limit : ℕ} {state : State} (sound : Sound limit state) :
    WindowSafe limit state.admissions := by
  intro startMs seconds nonneg
  have ordered : startMs ≤ startMs + 1000 * seconds := by linarith
  have bound := admittedIn_le (Nat.cast_nonneg limit) (refillPerMs_nonneg limit) sound.fair ordered
  refine bound.trans (le_of_eq ?_)
  simp only [refillPerMs]
  ring

/-- If no write credits more than its bucket value has refilled since it was stored, and no denial
writes over an admission, then every window admits at most the limit plus its refill, under any
interleaving. -/
theorem admissions_windowSafe (limit : ℕ) (positive : 0 < limit) (labels : List Label) (final : State)
    (onTime : Along (step limit 1) (OnTime limit) {} labels)
    (ran : run? (step limit 1) {} labels = some final) : WindowSafe limit final.admissions :=
  (run_invariant (OnTime limit) (Sound limit) (Sound.step positive) (sound_initial limit) onTime ran).windowSafe

/-- With two calls a minute: two calls overlap and one of them loses a round, a third one is denied, and half a
minute later two more overlap, of which one is admitted. -/
def overlapping : List Label :=
  [.call 0, .call 1, .call 0, .call 1, .call 0, .call 1, .call 0, .call 1, .call 1, .call 1, .call 1,
    .call 2, .call 2, .call 2, .call 2, .call 2, .call 2, .tick 30000,
    .call 3, .call 4, .call 3, .call 4, .call 3, .call 4, .call 4, .call 3, .call 3, .call 3, .call 3, .call 3,
    .call 3]

theorem admissions_overlapping : ∃ final, run? (step 2 1) {} overlapping = some final ∧
    final.admissions = [30000, 0, 0] ∧ WindowSafe 2 final.admissions := by
  have admissions : (run? (step 2 1) {} overlapping).map State.admissions = some [30000, 0, 0] := by
    decide +kernel
  obtain ⟨final, ran, admitted⟩ := Option.map_eq_some_iff.mp admissions
  exact ⟨final, ran, admitted,
    admissions_windowSafe 2 (by decide) overlapping final (by decide +kernel) ran⟩

/-- Call `1` reads the empty bucket at time zero and is slow to write its denial back. -/
def lateDenial : List Label :=
  [.call 0, .call 0, .call 0, .call 0, .call 1, .call 1, .call 1, .call 1, .tick 60000,
    .call 2, .call 2, .call 2, .call 2, .call 1, .call 3, .call 3, .call 3, .call 3]

/-- With one call a minute, the late denial hands the second minute's token out twice. -/
theorem admissions_lateDenial : ∃ final, run? (step 1 1) {} lateDenial = some final ∧
    final.admissions = [60000, 60000, 0] ∧ ¬ WindowSafe 1 final.admissions := by
  have admissions : (run? (step 1 1) {} lateDenial).map State.admissions = some [60000, 60000, 0] := by
    decide +kernel
  obtain ⟨final, ran, admitted⟩ := Option.map_eq_some_iff.mp admissions
  refine ⟨final, ran, admitted, fun safe => ?_⟩
  have window := safe 0 60 (by norm_num)
  rw [admitted] at window
  norm_num [admittedIn, instants] at window

end LlmopsGateway.RateLimit
