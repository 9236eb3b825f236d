import LlmopsGateway.Machine.Run
import LlmopsGateway.Model.Coalescing

/-! # Who removes a coalescing lock entry

A release deletes whatever entry the key holds. As long as every removal so far was the owner's
own or an expiry, the entry in Redis is exactly the one won by a call whose TTL has not run out
and which has not released yet; so a release removes a foreign entry exactly when it comes from a
call that holds nothing while another call still does.
-/

namespace LlmopsGateway.Coalescing

open Machine

variable {ρ : Type} {settings : Settings}

/-- All that a step can do. -/
inductive Moves (settings : Settings) (state : State ρ) : Label ρ → State ρ → Prop
  | tick (ms : ℕ) : Moves settings state (.tick ms) (state.tick ms)
  | expired : Moves settings state .expireExact { state with exact := none }
  | arrived (id : ℕ) (phase : state.calls id = .idle) :
    Moves settings state (.arrive id) (state.goto id .exactGet)
  | hit (id : ℕ) (answered : Bool) (phase : state.calls id = .exactGet) :
    Moves settings state (.exactGet id answered) (state.goto id .done)
  | missed (id : ℕ) (answered : Bool) (phase : state.calls id = .exactGet) :
    Moves settings state (.exactGet id answered) (state.goto id .semanticGet)
  | matched (id : ℕ) (response : ρ) (phase : state.calls id = .semanticGet) :
    Moves settings state (.semanticGet id (some response)) (state.goto id (.writeBack response))
  | unmatched (id : ℕ) (phase : state.calls id = .semanticGet) :
    Moves settings state (.semanticGet id none) (state.goto id .acquire)
  | acquired (id : ℕ) (reply : Reply) (phase : state.calls id = .acquire) :
    Moves settings state (.acquire id reply) (acquireLock settings state id reply)
  | served (id : ℕ) (answered : Bool) (deadline wake : ℕ) (phase : state.calls id = .waiting deadline wake) :
    Moves settings state (.poll id answered) (state.goto id .done)
  | unserved (id : ℕ) (answered : Bool) (deadline wake : ℕ) (phase : state.calls id = .waiting deadline wake)
    (nothing : (state.get answered).isSome = false) :
    Moves settings state (.poll id answered) (sleepOrCall settings state id deadline)
  | completed (id : ℕ) (result : Option ρ) (phase : state.calls id = .calling true) :
    Moves settings state (.complete id result) (state.goto id (.releasing result))
  | finished (id : ℕ) (result : Option ρ) (phase : state.calls id = .calling false) :
    Moves settings state (.complete id result) (finish state id result)
  | released (id : ℕ) (reply : Reply) (result : Option ρ) (phase : state.calls id = .releasing result) :
    Moves settings state (.release id reply)
      (finish (if reply.applied then state.delete id else state) id result)
  | backfilled (id : ℕ) (answered : Bool) (response : ρ) (phase : state.calls id = .backfill response) :
    Moves settings state (.store id answered) ((state.put answered response).goto id .done)
  | writtenBack (id : ℕ) (answered : Bool) (response : ρ) (phase : state.calls id = .writeBack response) :
    Moves settings state (.store id answered) ((state.put answered response).goto id .done)

theorem moves_of_step {state next : State ρ} {label : Label ρ}
    (stepped : step settings state label = some next) : Moves settings state label next := by
  cases label with
  | tick ms =>
    obtain rfl := Option.some.inj stepped
    exact .tick ms
  | expireExact =>
    obtain rfl := Option.some.inj stepped
    exact .expired
  | arrive id =>
    simp only [step] at stepped
    split at stepped
    · next phase =>
      obtain rfl := Option.some.inj stepped
      exact .arrived id phase
    · contradiction
  | exactGet id answered =>
    simp only [step] at stepped
    split at stepped
    · next phase =>
      obtain rfl := Option.some.inj stepped
      split
      · exact .hit id answered phase
      · exact .missed id answered phase
    · contradiction
  | semanticGet id found =>
    simp only [step] at stepped
    split at stepped
    · next phase =>
      obtain rfl := Option.some.inj stepped
      cases found with
      | some response => exact .matched id response phase
      | none => exact .unmatched id phase
    · contradiction
  | acquire id reply =>
    simp only [step] at stepped
    split at stepped
    · next phase =>
      obtain rfl := Option.some.inj stepped
      exact .acquired id reply phase
    · contradiction
  | poll id answered =>
    simp only [step] at stepped
    split at stepped
    · next deadline wake phase =>
      split_ifs at stepped with asleep found
      · obtain rfl := Option.some.inj stepped
        exact .served id answered deadline wake phase
      · obtain rfl := Option.some.inj stepped
        exact .unserved id answered deadline wake phase (Bool.eq_false_iff.mpr found)
    · contradiction
  | complete id result =>
    simp only [step] at stepped
    split at stepped
    · next phase =>
      obtain rfl := Option.some.inj stepped
      exact .completed id result phase
    · next phase =>
      obtain rfl := Option.some.inj stepped
      exact .finished id result phase
    · contradiction
  | release id reply =>
    simp only [step] at stepped
    split at stepped
    · next result phase =>
      obtain rfl := Option.some.inj stepped
      exact .released id reply result phase
    · contradiction
  | store id answered =>
    simp only [step] at stepped
    split at stepped
    · next response phase =>
      obtain rfl := Option.some.inj stepped
      exact .backfilled id answered response phase
    · next response phase =>
      obtain rfl := Option.some.inj stepped
      exact .writtenBack id answered response phase
    · contradiction

/-- An entry disappears only by its own TTL or by its owner's release. -/
def RemovalsOwned (settings : Settings) (state : State ρ) (label : Label ρ) : Prop :=
  ∀ next, step settings state label = some next →
    ∀ entry, state.lock = some entry → next.lock ≠ some entry →
      ((∃ ms, label = .tick ms) ∧ entry.deadline ≤ next.clock) ∨
        ∃ reply, label = .release entry.owner reply

/-- The call's own `SET NX` took effect less than one lock TTL ago. -/
def State.Holds (settings : Settings) (state : State ρ) (id : ℕ) : Prop :=
  ∃ since, state.acquiredAt id = some since ∧ state.clock < since + settings.lockTtlMs

/-- ... and the call has not released yet. -/
def State.Outstanding (settings : Settings) (state : State ρ) (id : ℕ) : Prop :=
  state.Holds settings id ∧ state.released id = false

/-- A `DELETE` that takes effect is sent within the TTL of the call's own `SET NX`, or at a time
when no other call's `SET NX` is within its TTL and unreleased. -/
def ReleasesInTime (settings : Settings) (state : State ρ) : Label ρ → Prop
  | .release id reply =>
      (∃ result, state.calls id = .releasing result) → reply.applied = true →
        state.Holds settings id ∨ ∀ other, other ≠ id → ¬ state.Outstanding settings other
  | _ => True

/-- The phases after a call's release. -/
def Call.released : Call ρ → Bool
  | .backfill _ | .writeBack _ | .done => true
  | _ => false

/-- The entry in Redis is exactly the outstanding one. -/
structure Owned (settings : Settings) (state : State ρ) : Prop where
  entry : ∀ entry, state.lock = some entry → state.released entry.owner = false ∧
    ∃ since, state.acquiredAt entry.owner = some since ∧
      entry.deadline = since + settings.lockTtlMs ∧ state.clock < entry.deadline
  holder : ∀ id, state.Outstanding settings id → ∃ entry, state.lock = some entry ∧ entry.owner = id
  unreleased : ∀ id, (state.calls id).released = false → state.released id = false

theorem Owned.outstanding {state : State ρ} (owned : Owned settings state) {entry : LockEntry}
    (present : state.lock = some entry) : state.Outstanding settings entry.owner := by
  obtain ⟨unreleased, since, acquired, deadline, alive⟩ := owned.entry entry present
  exact ⟨⟨since, acquired, deadline ▸ alive⟩, unreleased⟩

/-- Only the owner of the entry can be outstanding. -/
theorem Owned.unique {state : State ρ} (owned : Owned settings state) {entry : LockEntry}
    (present : state.lock = some entry) {id : ℕ} (outstanding : state.Outstanding settings id) :
    entry.owner = id := by
  obtain ⟨other, there, owner⟩ := owned.holder id outstanding
  obtain rfl := Option.some.inj (present.symm.trans there)
  exact owner

/-- A step that leaves the key, the clock and the history alone may move calls forward freely. -/
theorem Owned.goto {state : State ρ} (owned : Owned settings state) {id : ℕ} {next : Call ρ}
    (forward : next.released = false → (state.calls id).released = false) :
    Owned settings (state.goto id next) := by
  refine ⟨owned.entry, owned.holder, ?_⟩
  exact (Function.forall_update_iff state.calls fun other call =>
    call.released = false → state.released other = false).mpr
      ⟨fun live => owned.unreleased id (forward live), fun other _ => owned.unreleased other⟩

theorem Owned.call {state : State ρ} (owned : Owned settings state) {id : ℕ} {won : Bool}
    (live : (state.calls id).released = false) : Owned settings (state.call id won) := by
  have counted : Owned settings { state with upstreamCalls := state.upstreamCalls + 1 } :=
    ⟨owned.entry, owned.holder, owned.unreleased⟩
  exact counted.goto fun _ => live

/-- Both ends of an entry's life are at `since + ttl`, so expiry keeps key and history together. -/
theorem Owned.tick {state : State ρ} (owned : Owned settings state) (ms : ℕ) :
    Owned settings (state.tick ms) := by
  refine ⟨fun entry present => ?_, fun id outstanding => ?_, owned.unreleased⟩
  · obtain ⟨there, alive⟩ := Option.filter_eq_some_iff.mp present
    obtain ⟨unreleased, since, acquired, deadline, -⟩ := owned.entry entry there
    have alive : state.clock + ms < entry.deadline := by simpa using alive
    exact ⟨unreleased, since, acquired, deadline, alive⟩
  · obtain ⟨⟨since, acquired, alive⟩, unreleased⟩ := outstanding
    have alive : state.clock + ms < since + settings.lockTtlMs := alive
    have before : state.Outstanding settings id := ⟨⟨since, acquired, by omega⟩, unreleased⟩
    obtain ⟨entry, present, rfl⟩ := owned.holder id before
    obtain ⟨-, since', acquired', deadline, -⟩ := owned.entry entry present
    obtain rfl := Option.some.inj (acquired.symm.trans acquired')
    exact ⟨entry, Option.filter_eq_some_iff.mpr ⟨present, by simpa [deadline] using alive⟩, rfl⟩

theorem Owned.setNx {state : State ρ} (owned : Owned settings state) {id : ℕ}
    (unreleased : state.released id = false) : Owned settings (state.setNx settings id) := by
  unfold State.setNx
  split
  · exact owned
  · next free =>
    refine ⟨fun entry present => ?_, fun other outstanding => ?_, owned.unreleased⟩
    · obtain rfl := Option.some.inj present
      refine ⟨unreleased, state.clock, Function.update_self .., rfl, ?_⟩
      exact Nat.lt_add_of_pos_right settings.lockTtlMs_pos
    · refine ⟨_, rfl, ?_⟩
      by_contra different
      obtain ⟨⟨since, acquired, alive⟩, unreleased⟩ := outstanding
      have acquired : state.acquiredAt other = some since := by
        rw [← acquired]
        exact (Function.update_of_ne (Ne.symm different) ..).symm
      obtain ⟨entry, present, -⟩ := owned.holder other ⟨⟨since, acquired, alive⟩, unreleased⟩
      rw [free] at present
      contradiction

/-- Deleting one's own entry, or nothing, leaves no call outstanding. -/
theorem Owned.delete {state : State ρ} (owned : Owned settings state) {id : ℕ}
    (own : ∀ entry, state.lock = some entry → entry.owner = id) (next : Call ρ)
    (past : next.released = true) : Owned settings ((state.delete id).goto id next) := by
  refine ⟨fun entry present => (nomatch present), fun other outstanding => ?_, fun other live => ?_⟩
  · exfalso
    obtain ⟨holds, unreleased⟩ := outstanding
    have different : other ≠ id := by
      rintro rfl
      have : (state.delete other).released other = true := Function.update_self ..
      rw [State.goto_released, this] at unreleased
      contradiction
    have before : state.released other = false := by
      rw [← unreleased]
      exact (Function.update_of_ne different ..).symm
    obtain ⟨entry, present, owner⟩ := owned.holder other ⟨holds, before⟩
    exact different (owner.symm.trans (own entry present))
  · by_cases same : other = id
    · subst same
      rw [State.goto_calls_self, past] at live
      contradiction
    · rw [State.goto_calls_of_ne _ _ _ same] at live
      rw [State.goto_released, ← owned.unreleased other live]
      exact Function.update_of_ne same ..

theorem Owned.sleepOrCall {state : State ρ} (owned : Owned settings state) {id deadline : ℕ}
    (live : (state.calls id).released = false) :
    Owned settings (sleepOrCall settings state id deadline) := by
  unfold Coalescing.sleepOrCall
  split
  · exact owned.goto fun _ => live
  · exact owned.call live

theorem State.setNx_calls (state : State ρ) (id : ℕ) :
    (state.setNx settings id).calls = state.calls := by
  unfold State.setNx
  split <;> rfl

theorem Owned.acquireLock {state : State ρ} (owned : Owned settings state) {id : ℕ} (reply : Reply)
    (live : (state.calls id).released = false) :
    Owned settings (acquireLock settings state id reply) := by
  have set := owned.setNx (owned.unreleased id live)
  have live' : ((state.setNx settings id).calls id).released = false := by
    rw [State.setNx_calls]
    exact live
  unfold Coalescing.acquireLock
  split
  · exact owned.call live
  · exact set.call live'
  · split
    · exact set.call live'
    · exact owned.sleepOrCall live

theorem finish_eq_goto (state : State ρ) (id : ℕ) (result : Option ρ) :
    ∃ next : Call ρ, next.released = true ∧ finish state id result = state.goto id next := by
  cases result with
  | some response => exact ⟨.backfill response, rfl, rfl⟩
  | none => exact ⟨.done, rfl, rfl⟩

theorem sleepOrCall_lock (state : State ρ) (id deadline : ℕ) :
    (sleepOrCall settings state id deadline).lock = state.lock := by
  unfold sleepOrCall
  split <;> rfl

theorem setNx_of_held {state : State ρ} {entry : LockEntry} (present : state.lock = some entry)
    (id : ℕ) : state.setNx settings id = state := by
  simp only [State.setNx, present]

theorem acquireLock_of_held {state : State ρ} {entry : LockEntry}
    (present : state.lock = some entry) (id : ℕ) (reply : Reply) :
    (acquireLock settings state id reply).lock = some entry := by
  cases reply with
  | lost => exact present
  | unanswered =>
    simp only [acquireLock, setNx_of_held present]
    exact present
  | ok => simp only [acquireLock, present, sleepOrCall_lock]

theorem finish_lock (state : State ρ) (id : ℕ) (result : Option ρ) :
    (finish state id result).lock = state.lock := by
  cases result <;> rfl

/-- Every step but a release leaves the entry to its TTL. -/
theorem lock_of_step {state next : State ρ} {label : Label ρ}
    (notRelease : ∀ id reply, label ≠ .release id reply)
    (stepped : step settings state label = some next) {entry : LockEntry}
    (present : state.lock = some entry) :
    next.lock = some entry ∨ ((∃ ms, label = .tick ms) ∧ entry.deadline ≤ next.clock) := by
  cases moves_of_step stepped with
  | tick ms =>
    by_cases alive : state.clock + ms < entry.deadline
    · exact .inl (Option.filter_eq_some_iff.mpr ⟨present, by simpa using alive⟩)
    · exact .inr ⟨⟨ms, rfl⟩, Nat.le_of_not_lt alive⟩
  | released id reply => exact absurd rfl (notRelease id reply)
  | acquired id reply => exact .inl (acquireLock_of_held present id reply)
  | unserved => exact .inl ((sleepOrCall_lock ..).trans present)
  | finished => exact .inl ((finish_lock ..).trans present)
  | backfilled id answered | writtenBack id answered => cases answered <;> exact .inl present
  | expired | arrived | hit | missed | matched | unmatched | served | completed => exact .inl present

theorem step_release {state next : State ρ} {id : ℕ} {reply : Reply}
    (stepped : step settings state (.release id reply) = some next) :
    ∃ result, state.calls id = .releasing result ∧
      next = finish (if reply.applied then state.delete id else state) id result := by
  cases moves_of_step stepped with
  | released _ _ result phase => exact ⟨result, phase, rfl⟩

/-- At a release, removing a foreign entry and releasing out of time are the same thing. -/
theorem Owned.removal_iff {state : State ρ} (owned : Owned settings state) (label : Label ρ) :
    RemovalsOwned settings state label ↔ ReleasesInTime settings state label := by
  by_cases notRelease : ∀ id reply, label ≠ .release id reply
  · have removals : RemovalsOwned settings state label := by
      intro next stepped entry present removed
      exact .inl ((lock_of_step notRelease stepped present).resolve_left removed)
    have inTime : ReleasesInTime settings state label := by
      cases label with
      | release id reply => exact absurd rfl (notRelease id reply)
      | _ => trivial
    exact iff_of_true removals inTime
  · push Not at notRelease
    obtain ⟨id, reply, rfl⟩ := notRelease
    constructor
    · rintro removals ⟨result, phase⟩ applied
      refine .inr fun other different outstanding => ?_
      obtain ⟨entry, present, rfl⟩ := owned.holder other outstanding
      have stepped : step settings state (.release id reply) =
          some (finish (if reply.applied then state.delete id else state) id result) := by
        simp only [step, phase]
      have removed : (finish (if reply.applied then state.delete id else state) id result).lock ≠
          some entry := by
        rw [finish_lock, if_pos applied]
        simp [State.delete]
      rcases removals _ stepped entry present removed with ⟨⟨ms, tick⟩, -⟩ | ⟨reply', same⟩
      · contradiction
      · exact different (Label.release.inj same).1.symm
    · rintro inTime next stepped entry present removed
      obtain ⟨result, phase, rfl⟩ := step_release stepped
      have applied : reply.applied = true := by
        by_contra lost
        rw [finish_lock, if_neg lost] at removed
        exact removed present
      have unreleased := owned.unreleased id (by rw [phase]; rfl)
      have owner : entry.owner = id := by
        rcases inTime ⟨result, phase⟩ applied with holds | alone
        · exact owned.unique present ⟨holds, unreleased⟩
        · by_contra different
          exact alone entry.owner different (owned.outstanding present)
      exact .inr ⟨reply, owner ▸ rfl⟩

theorem Owned.put {state : State ρ} (owned : Owned settings state) (answered : Bool) (response : ρ) :
    Owned settings (state.put answered response) := by
  cases answered <;> exact ⟨owned.entry, owned.holder, owned.unreleased⟩

theorem Owned.step {state next : State ρ} {label : Label ρ} (owned : Owned settings state)
    (removals : RemovalsOwned settings state label)
    (stepped : step settings state label = some next) : Owned settings next := by
  cases moves_of_step stepped with
  | tick ms => exact owned.tick ms
  | expired => exact ⟨owned.entry, owned.holder, owned.unreleased⟩
  | arrived id phase | missed id _ phase | unmatched id phase | completed id _ phase =>
    exact owned.goto fun _ => by rw [phase]; rfl
  | hit id | matched id | served id => exact owned.goto nofun
  | acquired id reply phase => exact owned.acquireLock reply (by rw [phase]; rfl)
  | unserved id answered deadline wake phase => exact owned.sleepOrCall (by rw [phase]; rfl)
  | finished id result =>
    obtain ⟨next, past, moved⟩ := finish_eq_goto state id result
    rw [moved]
    exact owned.goto (by simp [past])
  | released id reply result phase =>
    obtain ⟨next, past, moved⟩ :=
      finish_eq_goto (if reply.applied then state.delete id else state) id result
    by_cases applied : reply.applied = true
    · rw [if_pos applied] at moved stepped ⊢
      rw [moved]
      refine owned.delete (fun entry present => ?_) next past
      have removed : (finish (state.delete id) id result).lock ≠ some entry := by
        rw [finish_lock]
        simp [State.delete]
      rcases removals _ stepped entry present removed with ⟨⟨ms, tick⟩, -⟩ | ⟨reply', same⟩
      · contradiction
      · exact (Label.release.inj same).1.symm
    · rw [if_neg applied] at moved ⊢
      rw [moved]
      exact owned.goto (by simp [past])
  | backfilled id answered response | writtenBack id answered response =>
    exact (owned.put answered response).goto nofun

theorem owned_initial (settings : Settings) (exact : Option ρ) :
    Owned settings (.initial exact) :=
  ⟨fun _ present => (nomatch present), fun _ ⟨⟨_, acquired, _⟩, _⟩ => (nomatch acquired), fun _ _ => rfl⟩

/-- Over every interleaving, upstream duration, expiry and pattern of Redis errors: entries are
removed only by their TTL or their owner exactly when every effective `DELETE` is in time. -/
theorem lock_removalsOwned_iff (settings : Settings) (exact : Option ρ) (labels : List (Label ρ)) :
    Along (step settings) (RemovalsOwned settings) (.initial exact) labels ↔
      Along (step settings) (ReleasesInTime settings) (.initial exact) labels :=
  along_congr (Owned settings) (fun _ label owned _ => owned.removal_iff label)
    (fun _ _ _ owned _ removals stepped => owned.step removals stepped)
    (owned_initial settings exact) (along_true _ labels)

/-- Call `0` is still upstream when its lock expires; call `1` wins the next lock. -/
def overrun : List (Label Unit) :=
  [.arrive 0, .exactGet 0 true, .semanticGet 0 none, .acquire 0 .ok, .tick 10000,
    .arrive 1, .exactGet 1 true, .semanticGet 1 none, .acquire 1 .ok, .complete 0 (some ())]

/-- With the default settings, call `0`'s release then deletes the entry of call `1`. -/
theorem lock_overrun : ¬ Along (step {}) (RemovalsOwned {}) (.initial none)
    (overrun ++ [.release 0 .ok]) := by
  intro along
  have reached : (run? (step {}) (.initial none) overrun).map (fun state => (state.lock, state.calls 0)) =
      some (some ⟨20000, 1⟩, .releasing (some ())) := by decide
  obtain ⟨before, ran, facts⟩ := Option.map_eq_some_iff.mp reached
  obtain ⟨present, phase⟩ := Prod.mk.inj facts
  have stepped : step {} before (.release 0 .ok) = some (finish (before.delete 0) 0 (some ())) := by
    simp [step, phase, Reply.applied]
  have removals := (along.append_right ran).1 _ stepped ⟨20000, 1⟩ present
  rcases removals (by simp [finish_lock, State.delete]) with ⟨⟨ms, tick⟩, -⟩ | ⟨reply, same⟩
  · contradiction
  · exact absurd (Label.release.inj same).1 (by decide)

end LlmopsGateway.Coalescing
