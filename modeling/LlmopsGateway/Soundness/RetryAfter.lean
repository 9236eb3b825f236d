import LlmopsGateway.Model.Middleware
import LlmopsGateway.Soundness.RateLimitWindow

/-! # Coming back after `Retry-After`

A denied call promises that there will be a token after a wait. With exhausted contention retries the wait is
that for a whole token, and nothing can go wrong. With an empty bucket it is counted from the level the call
has written itself, so another call must not take from that level before the answer is out.
-/

namespace LlmopsGateway.RateLimit

open Machine

section sane

/-- No reading lies in the future, and no call has seen less than nothing. -/
def CallSane (clock : ℕ) : Call → Prop
  | .watch nowMs _ | .hmget nowMs _ _ => nowMs ≤ clock
  | .exec nowMs _ _ tokens => nowMs ≤ clock ∧ 1 ≤ tokens
  | .unwatch nowMs tokens | .hset nowMs tokens => nowMs ≤ clock ∧ 0 ≤ tokens
  | .idle | .pexpire _ | .admitted | .exceeded _ => True

structure Sane (state : State) : Prop where
  bucket : ∀ bucket ∈ state.bucket, 0 ≤ bucket.tokens ∧ bucket.lastRefillMs ≤ state.clock
  calls : ∀ id, CallSane state.clock (state.calls id)

variable {limit : ℕ} {state next : State}

theorem CallSane.later {clock later : ℕ} (ordered : clock ≤ later) {call : Call} (sane : CallSane clock call) :
    CallSane later call := by
  cases call with
  | idle | pexpire _ | admitted | exceeded _ => trivial
  | watch nowMs tries => exact le_trans sane ordered
  | hmget nowMs tries version => exact le_trans sane ordered
  | exec nowMs tries version tokens => exact ⟨sane.1.trans ordered, sane.2⟩
  | unwatch nowMs tokens => exact ⟨sane.1.trans ordered, sane.2⟩
  | hset nowMs tokens => exact ⟨sane.1.trans ordered, sane.2⟩

theorem sane_initial : Sane {} := ⟨nofun, fun _ => trivial⟩

theorem Sane.goto (sane : Sane state) {id : ℕ} {call : Call} (moved : CallSane state.clock call) :
    Sane (state.goto id call) := by
  refine ⟨sane.bucket, fun other => ?_⟩
  by_cases same : other = id
  · subst same
    rw [State.goto_calls_self]
    exact moved
  · rw [State.goto_calls_of_ne _ _ _ same]
    exact sane.calls other

/-- Time leaves the bucket as it is or takes it away. -/
theorem tick_bucket (state : State) (ms : ℕ) :
    (state.tick ms).bucket = none ∨ (state.tick ms).bucket = state.bucket := by
  unfold State.tick
  split
  · exact .inl rfl
  · exact .inr rfl

theorem tick_calls (state : State) (ms : ℕ) : (state.tick ms).calls = state.calls := by
  unfold State.tick
  split <;> rfl

theorem Sane.tick (sane : Sane state) (ms : ℕ) : Sane (state.tick ms) := by
  have ordered : state.clock ≤ (state.tick ms).clock := by
    rw [tick_clock]
    exact Nat.le_add_right ..
  refine ⟨fun bucket present => ?_, fun id => ?_⟩
  · rcases tick_bucket state ms with gone | same
    · rw [gone] at present
      cases present
    · rw [same] at present
      obtain ⟨nonneg, read⟩ := sane.bucket bucket present
      exact ⟨nonneg, read.trans ordered⟩
  · rw [tick_calls]
    exact (sane.calls id).later ordered

theorem pexpire_bucket (state : State) (ms : ℕ) : (state.pexpire ms).bucket = state.bucket := by
  unfold State.pexpire
  split <;> rfl

theorem pexpire_calls (state : State) (ms : ℕ) : (state.pexpire ms).calls = state.calls := by
  unfold State.pexpire
  split <;> rfl

theorem Sane.pexpire (sane : Sane state) (ms : ℕ) : Sane (state.pexpire ms) := by
  have clock : (state.pexpire ms).clock = state.clock := by
    unfold State.pexpire
    split <;> rfl
  refine ⟨?_, ?_⟩
  · rw [pexpire_bucket, clock]
    exact sane.bucket
  · rw [pexpire_calls, clock]
    exact sane.calls

theorem Sane.hset (sane : Sane state) {bucket : Bucket} (nonneg : 0 ≤ bucket.tokens)
    (read : bucket.lastRefillMs ≤ state.clock) : Sane (state.hset bucket) := by
  refine ⟨fun other present => ?_, sane.calls⟩
  obtain rfl := Option.some.inj present
  exact ⟨nonneg, read⟩

theorem refilled_nonneg (limit nowMs : ℕ) {raw : Option Bucket} (nonneg : ∀ bucket ∈ raw, 0 ≤ bucket.tokens) :
    0 ≤ refilled limit nowMs raw := by
  have rate : 0 ≤ refillRate limit := by
    unfold refillRate
    positivity
  have full : 0 ≤ capacity limit := by
    unfold capacity
    positivity
  have tokens : 0 ≤ (raw.map Bucket.tokens).getD (capacity limit) := by
    cases raw with
    | none => exact full
    | some bucket => exact nonneg bucket rfl
  unfold refilled
  positivity

theorem Sane.step (sane : Sane state) {label : Label} (stepped : step limit 1 state label = some next) :
    Sane next := by
  cases label with
  | tick ms =>
    obtain rfl := Option.some.inj stepped
    exact sane.tick ms
  | call id =>
    simp only [RateLimit.step, advance] at stepped
    have known := sane.calls id
    split at stepped
    · obtain rfl := Option.some.inj stepped
      exact sane.goto le_rfl
    · next phase =>
      rw [phase] at known
      obtain rfl := Option.some.inj stepped
      exact sane.goto known
    · next nowMs tries version phase =>
      rw [phase] at known
      obtain rfl := Option.some.inj stepped
      have observed : Sane (state.observe id) := ⟨sane.bucket, sane.calls⟩
      refine observed.goto ?_
      split_ifs with short
      · exact ⟨known, refilled_nonneg limit nowMs fun bucket present => (sane.bucket bucket present).1⟩
      · exact ⟨known, not_lt.mp short⟩
    · next nowMs tries version tokens phase =>
      rw [phase] at known
      split_ifs at stepped with unmoved retry
      · obtain rfl := Option.some.inj stepped
        have left : 0 ≤ tokens - 1 := by linarith [known.2]
        have written : Sane ((state.hset ⟨tokens - 1, nowMs⟩).pexpire (ttlMs limit)) :=
          (sane.hset left known.1).pexpire _
        have recorded : Sane ((state.hset ⟨tokens - 1, nowMs⟩).pexpire (ttlMs limit)).recordAdmission :=
          ⟨written.bucket, written.calls⟩
        exact recorded.goto trivial
      · obtain rfl := Option.some.inj stepped
        exact sane.goto known.1
      · obtain rfl := Option.some.inj stepped
        exact sane.goto trivial
    · next phase =>
      rw [phase] at known
      obtain rfl := Option.some.inj stepped
      exact sane.goto known
    · next nowMs tokens phase =>
      rw [phase] at known
      obtain rfl := Option.some.inj stepped
      exact (sane.hset known.2 known.1).goto trivial
    · obtain rfl := Option.some.inj stepped
      exact (sane.pexpire _).goto trivial
    · cases stepped
    · cases stepped

theorem sane_of_run {labels : List Label} (ran : run? (step limit 1) {} labels = some state) : Sane state :=
  reachable_invariant Sane (fun _ _ _ sane stepped => sane.step stepped) sane_initial ran

end sane

section promise

variable {limit id other : ℕ} {state next : State} {labels : List Label}

/-- The next command of the call writes the bucket. -/
def Writes (state : State) (id : ℕ) : Prop :=
  match state.calls id with
  | .hset .. => True
  | .exec _ _ version _ => version = state.version
  | _ => False

/-- No other call writes the bucket. -/
def LeftAlone (id : ℕ) (state : State) : Label → Prop
  | .tick _ => True
  | .call other => other ≠ id → ¬ Writes state other

/-- From the `HSET` of this call on, should it come to one, no other call writes the bucket. -/
def WriteStands (limit id : ℕ) (labels : List Label) : Prop :=
  ∀ before later writing nowMs tokens, labels = before ++ .call id :: later →
    run? (step limit 1) {} before = some writing → writing.calls id = .hset nowMs tokens →
      Along (step limit 1) (LeftAlone id) writing (.call id :: later)

theorem WriteStands.of_append {later : List Label} (stands : WriteStands limit id (labels ++ later)) :
    WriteStands limit id labels := by
  intro before rest writing nowMs tokens split ran phase
  have along :=
    stands before (rest ++ later) writing nowMs tokens (by rw [split, List.append_assoc, List.cons_append])
    ran phase
  rw [← List.cons_append] at along
  exact along.append_left

theorem advance_bucket (quiet : ¬ Writes state id) (stepped : advance limit 1 state id = some next) :
    next.bucket = state.bucket := by
  simp only [advance] at stepped
  simp only [Writes] at quiet
  split at stepped
  · obtain rfl := Option.some.inj stepped
    rfl
  · obtain rfl := Option.some.inj stepped
    rfl
  · obtain rfl := Option.some.inj stepped
    rfl
  · next phase =>
    rw [phase] at quiet
    rw [if_neg quiet] at stepped
    split_ifs at stepped with retry
    · obtain rfl := Option.some.inj stepped
      rfl
    · obtain rfl := Option.some.inj stepped
      rfl
  · obtain rfl := Option.some.inj stepped
    rfl
  · next phase =>
    rw [phase] at quiet
    exact absurd trivial quiet
  · obtain rfl := Option.some.inj stepped
    rw [State.goto_bucket, pexpire_bucket]
  · cases stepped
  · cases stepped

/-- A command moves only the call that sends it. -/
theorem advance_calls (stepped : advance limit 1 state id = some next) (different : other ≠ id) :
    next.calls other = state.calls other := by
  have moved {between : State} {call : Call} (calls : between.calls = state.calls) :
      (between.goto id call).calls other = state.calls other := by
    rw [State.goto_calls_of_ne _ _ _ different, calls]
  simp only [advance] at stepped
  split at stepped
  · obtain rfl := Option.some.inj stepped
    exact moved rfl
  · obtain rfl := Option.some.inj stepped
    exact moved rfl
  · obtain rfl := Option.some.inj stepped
    exact moved rfl
  · split_ifs at stepped with unmoved retry
    · obtain rfl := Option.some.inj stepped
      exact moved (pexpire_calls _ _)
    · obtain rfl := Option.some.inj stepped
      exact moved rfl
    · obtain rfl := Option.some.inj stepped
      exact moved rfl
  · obtain rfl := Option.some.inj stepped
    exact moved rfl
  · obtain rfl := Option.some.inj stepped
    exact moved rfl
  · obtain rfl := Option.some.inj stepped
    exact moved (pexpire_calls _ _)
  · cases stepped
  · cases stepped

/-- What a denied call wrote is what there is, unless the key has expired. -/
structure Wrote (limit id : ℕ) (labels : List Label) (state : State) (nowMs : ℕ) (tokens : ℚ) : Prop where
  wrote : ∃ before later writing, labels = before ++ .call id :: later ∧
    run? (step limit 1) {} before = some writing ∧ writing.calls id = .hset nowMs tokens
  bucket : state.bucket = none ∨ state.bucket = some ⟨tokens, nowMs⟩

/-- What the wait of a denied call is counted from. -/
def Promise (limit id : ℕ) (labels : List Label) (state : State) : Prop :=
  match state.calls id with
  | .pexpire wait =>
    ∃ nowMs tokens, Wrote limit id labels state nowMs tokens ∧ (1 - tokens) / refillRate limit ≤ wait
  | .exceeded wait => 1 / refillRate limit ≤ wait ∨
      ∃ nowMs tokens, Wrote limit id labels state nowMs tokens ∧ (1 - tokens) / refillRate limit ≤ wait
  | _ => True

theorem Wrote.concat {label : Label} {nowMs : ℕ} {tokens : ℚ} (wrote : Wrote limit id labels state nowMs tokens)
    (kept : next.bucket = none ∨ next.bucket = state.bucket) :
    Wrote limit id (labels ++ [label]) next nowMs tokens := by
  obtain ⟨before, later, writing, split, ran, phase⟩ := wrote.wrote
  refine ⟨⟨before, later ++ [label], writing, by rw [split, List.append_assoc, List.cons_append],
    ran, phase⟩, ?_⟩
  rcases kept with gone | same
  · exact .inl gone
  · rw [same]
    exact wrote.bucket

/-- A step that leaves the call where it is, and the bucket as it is. -/
theorem Promise.concat {label : Label} (promise : Promise limit id labels state)
    (calls : next.calls id = state.calls id)
    (kept : (∃ nowMs tokens, Wrote limit id labels state nowMs tokens) →
      next.bucket = none ∨ next.bucket = state.bucket) : Promise limit id (labels ++ [label]) next := by
  unfold Promise at promise ⊢
  rw [calls]
  cases phase : state.calls id with
  | pexpire wait =>
    rw [phase] at promise
    obtain ⟨nowMs, tokens, wrote, enough⟩ := promise
    exact ⟨nowMs, tokens, wrote.concat (kept ⟨nowMs, tokens, wrote⟩), enough⟩
  | exceeded wait =>
    rw [phase] at promise
    rcases promise with whole | ⟨nowMs, tokens, wrote, enough⟩
    · exact .inl whole
    · exact .inr ⟨nowMs, tokens, wrote.concat (kept ⟨nowMs, tokens, wrote⟩), enough⟩
  | idle | watch | hmget | exec | unwatch | hset | admitted => trivial

/-- Behind its own write, a call's bucket is left alone by the next step too. -/
theorem WriteStands.leftAlone {label : Label} {nowMs : ℕ} {tokens : ℚ}
    (stands : WriteStands limit id (labels ++ [label]))
    (ran : run? (step limit 1) {} labels = some state) (wrote : Wrote limit id labels state nowMs tokens) :
    LeftAlone id state label := by
  obtain ⟨before, later, writing, rfl, earlier, phase⟩ := wrote.wrote
  have along := stands before (later ++ [label]) writing nowMs tokens (by simp) earlier phase
  obtain ⟨middle, same, onward⟩ := run?_append_iff.mp ran
  obtain rfl := Option.some.inj (earlier.symm.trans same)
  rw [← List.cons_append] at along
  exact (along.append_right onward).1

/-- A command of the call itself. -/
theorem Promise.own (promise : Promise limit id labels state) (ran : run? (step limit 1) {} labels = some state)
    (stepped : advance limit 1 state id = some next) : Promise limit id (labels ++ [.call id]) next := by
  have floored (wait : ℚ) : wait ≤ retryAfterSeconds wait := le_max_left ..
  unfold Promise at promise ⊢
  simp only [advance] at stepped
  split at stepped
  · obtain rfl := Option.some.inj stepped
    rw [State.goto_calls_self]
    trivial
  · obtain rfl := Option.some.inj stepped
    rw [State.goto_calls_self]
    trivial
  · obtain rfl := Option.some.inj stepped
    rw [State.goto_calls_self]
    split_ifs <;> trivial
  · split_ifs at stepped with unmoved retry
    · obtain rfl := Option.some.inj stepped
      rw [State.goto_calls_self]
      trivial
    · obtain rfl := Option.some.inj stepped
      rw [State.goto_calls_self]
      trivial
    · obtain rfl := Option.some.inj stepped
      rw [State.goto_calls_self]
      exact .inl (floored _)
  · obtain rfl := Option.some.inj stepped
    rw [State.goto_calls_self]
    trivial
  · next nowMs tokens phase =>
    obtain rfl := Option.some.inj stepped
    rw [State.goto_calls_self]
    exact ⟨nowMs, tokens, ⟨⟨labels, [], state, rfl, ran, phase⟩, .inr rfl⟩, le_rfl⟩
  · next wait phase =>
    rw [phase] at promise
    obtain ⟨nowMs, tokens, wrote, enough⟩ := promise
    obtain rfl := Option.some.inj stepped
    rw [State.goto_calls_self]
    refine .inr ⟨nowMs, tokens, wrote.concat (.inr ?_), enough.trans (floored wait)⟩
    rw [State.goto_bucket, pexpire_bucket]
  · cases stepped
  · cases stepped

theorem promise_of_run (ran : run? (step limit 1) {} labels = some state)
    (stands : WriteStands limit id labels) :
    Promise limit id labels state := by
  induction labels using List.reverseRecOn generalizing state with
  | nil =>
    obtain rfl := Option.some.inj ran
    trivial
  | append_singleton labels label ih =>
    obtain ⟨before, earlier, stepped⟩ := run?_concat_iff.mp ran
    have promise := ih earlier stands.of_append
    cases label with
    | tick ms =>
      obtain rfl := Option.some.inj stepped
      exact promise.concat (congrFun (tick_calls before ms) id) fun _ => tick_bucket before ms
    | call other =>
      by_cases same : other = id
      · subst same
        exact promise.own earlier stepped
      · refine promise.concat (advance_calls stepped (Ne.symm same)) ?_
        rintro ⟨nowMs, tokens, wrote⟩
        exact .inr (advance_bucket (stands.leftAlone earlier wrote same) stepped)

end promise

section wait

variable {limit : ℕ}

/-- `str(retry_after)` of `to_error_response`. -/
def retryAfterHeader (wait : ℚ) : ℤ := max 1 ⌈wait⌉

theorem header_of_response (state : Middleware.RequestState) (wait : ℚ) :
    (Middleware.rateLimitErrorResponse state wait).retryAfterSeconds = some (retryAfterHeader wait) := rfl

theorem le_retryAfterHeader (wait : ℚ) : wait ≤ retryAfterHeader wait := by
  have rounded : ⌈wait⌉ ≤ retryAfterHeader wait := le_max_right ..
  exact (Int.le_ceil wait).trans (by exact_mod_cast rounded)

/-- The bucket has a token for every call from an instant on. -/
def Plenty (limit fromMs : ℕ) (raw : Option Bucket) : Prop :=
  ∀ nowMs, fromMs ≤ nowMs → 1 ≤ refilled limit nowMs raw

theorem plenty_none (positive : 0 < limit) (fromMs : ℕ) : Plenty limit fromMs none := by
  intro nowMs _
  have whole : (1 : ℚ) ≤ limit := by exact_mod_cast positive
  simpa [refilled, capacity] using whole

/-- A wait that refills what a token is short of. -/
theorem plenty_of_wait (positive : 0 < limit) {bucket : Bucket} {clock fromMs : ℕ} {wait : ℚ}
    (read : bucket.lastRefillMs ≤ clock) (waited : (clock : ℚ) + 1000 * wait ≤ fromMs)
    (enough : 1 - bucket.tokens ≤ wait * refillRate limit) : Plenty limit fromMs (some bucket) := by
  intro nowMs later
  have whole : (1 : ℚ) ≤ capacity limit := by
    unfold capacity
    exact_mod_cast positive
  have rate : 0 ≤ refillRate limit := by
    unfold refillRate
    positivity
  have read : (bucket.lastRefillMs : ℚ) ≤ clock := by exact_mod_cast read
  have later : (fromMs : ℚ) ≤ nowMs := by exact_mod_cast later
  have elapsed : wait ≤ max 0 (((nowMs : ℚ) - bucket.lastRefillMs) / 1000) := by
    refine le_max_of_le_right ?_
    rw [le_div_iff₀ (by norm_num)]
    linarith
  have refill := mul_le_mul_of_nonneg_right elapsed rate
  simp only [refilled, Option.map_some, Option.getD_some]
  exact le_min whole (by linarith)

/-- Behind the promised wait there is a token. -/
theorem Promise.plenty {id : ℕ} {labels : List Label} {response : State} {wait : ℚ} {fromMs : ℕ}
    (positive : 0 < limit) (promise : Promise limit id labels response) (sane : Sane response)
    (denied : response.calls id = .exceeded wait)
    (waited : (response.clock : ℤ) + 1000 * retryAfterHeader wait ≤ fromMs) :
    Plenty limit fromMs response.bucket := by
  have rate : 0 < refillRate limit := by
    unfold refillRate
    positivity
  have waited : (response.clock : ℚ) + 1000 * retryAfterHeader wait ≤ fromMs := by exact_mod_cast waited
  have long := le_retryAfterHeader wait
  rw [Promise, denied] at promise
  cases present : response.bucket with
  | none => exact plenty_none positive fromMs
  | some bucket =>
    obtain ⟨nonneg, read⟩ := sane.bucket bucket present
    refine plenty_of_wait positive read waited ?_
    have short : (1 - bucket.tokens) / refillRate limit ≤ wait := by
      rcases promise with whole | ⟨nowMs, tokens, wrote, enough⟩
      · refine le_trans ?_ whole
        exact div_le_div_of_nonneg_right (by linarith) rate.le
      · rcases wrote.bucket with gone | same
        · cases present.symm.trans gone
        · obtain rfl := Option.some.inj (present.symm.trans same)
          exact enough
    rw [div_le_iff₀ rate] at short
    exact short.trans (mul_le_mul_of_nonneg_right long rate.le)

end wait

section retry

variable {limit fromMs id : ℕ} {state next : State}

/-- A round after the first one comes after the key has expired, which it does only once. -/
def Calm (state : State) (tries : ℕ) : Prop := tries = 0 ∨ (tries = 1 ∧ state.expiresAt = none)

/-- The key has not changed since it was watched, unless it has expired in the first round. -/
def Seen (state : State) (tries version : ℕ) : Prop :=
  version = state.version ∨ (tries = 0 ∧ state.expiresAt = none)

/-- A call that began behind its wait, with nothing but time beside it. -/
def Retrying (limit fromMs id : ℕ) (state : State) : Prop :=
  match state.calls id with
  | .idle => Plenty limit fromMs state.bucket ∧ fromMs ≤ state.clock
  | .watch nowMs tries => Plenty limit fromMs state.bucket ∧ fromMs ≤ nowMs ∧ Calm state tries
  | .hmget nowMs tries version | .exec nowMs tries version _ =>
    Plenty limit fromMs state.bucket ∧ fromMs ≤ nowMs ∧ Calm state tries ∧ Seen state tries version
  | .admitted => True
  | .unwatch .. | .hset .. | .pexpire _ | .exceeded _ => False

/-- How many commands a retry has sent at most. -/
def stage : Call → ℕ
  | .idle => 0
  | .watch _ tries => 1 + 3 * tries
  | .hmget _ tries _ => 2 + 3 * tries
  | .exec _ tries _ _ => 3 + 3 * tries
  | .unwatch .. | .hset .. | .pexpire _ | .admitted | .exceeded _ => 7

theorem tick_eq_or (state : State) (ms : ℕ) : (state.tick ms).expiresAt = none ∧ state.expiresAt ≠ none ∨
    (state.tick ms).expiresAt = state.expiresAt ∧ (state.tick ms).version = state.version := by
  unfold State.tick
  split
  · next due =>
    refine .inl ⟨rfl, fun none => ?_⟩
    rw [none] at due
    cases due
  · exact .inr ⟨rfl, rfl⟩

theorem Calm.tick {tries : ℕ} (calm : Calm state tries) (ms : ℕ) : Calm (state.tick ms) tries := by
  refine calm.imp_right ?_
  rintro ⟨second, gone⟩
  rcases tick_eq_or state ms with ⟨-, some⟩ | ⟨same, -⟩
  · exact absurd gone some
  · exact ⟨second, same.trans gone⟩

theorem Seen.tick {tries version : ℕ} (calm : Calm state tries) (seen : Seen state tries version) (ms : ℕ) :
    Seen (state.tick ms) tries version := by
  rcases tick_eq_or state ms with ⟨expired, some⟩ | ⟨same, version⟩
  · rcases calm with first | ⟨-, gone⟩
    · exact .inr ⟨first, expired⟩
    · exact absurd gone some
  · refine seen.imp (fun current => current.trans version.symm) ?_
    rintro ⟨first, gone⟩
    exact ⟨first, same.trans gone⟩

theorem Plenty.tick (positive : 0 < limit) (plenty : Plenty limit fromMs state.bucket) (ms : ℕ) :
    Plenty limit fromMs (state.tick ms).bucket := by
  rcases tick_bucket state ms with gone | same
  · rw [gone]
    exact plenty_none positive fromMs
  · rw [same]
    exact plenty

theorem Retrying.tick (positive : 0 < limit) (retrying : Retrying limit fromMs id state) (ms : ℕ) :
    Retrying limit fromMs id (state.tick ms) := by
  unfold Retrying at retrying ⊢
  rw [tick_calls]
  cases phase : state.calls id with
  | idle =>
    rw [phase] at retrying
    refine ⟨retrying.1.tick positive ms, retrying.2.trans ?_⟩
    rw [tick_clock]
    exact Nat.le_add_right ..
  | watch nowMs tries =>
    rw [phase] at retrying
    obtain ⟨plenty, late, calm⟩ := retrying
    exact ⟨plenty.tick positive ms, late, calm.tick ms⟩
  | hmget nowMs tries version =>
    rw [phase] at retrying
    obtain ⟨plenty, late, calm, seen⟩ := retrying
    exact ⟨plenty.tick positive ms, late, calm.tick ms, seen.tick calm ms⟩
  | exec nowMs tries version tokens =>
    rw [phase] at retrying
    obtain ⟨plenty, late, calm, seen⟩ := retrying
    exact ⟨plenty.tick positive ms, late, calm.tick ms, seen.tick calm ms⟩
  | admitted => trivial
  | unwatch | hset | pexpire | exceeded =>
    rw [phase] at retrying
    exact retrying

/-- A command of the retry brings it nearer to its admission. -/
theorem Retrying.advance (retrying : Retrying limit fromMs id state)
    (stepped : advance limit 1 state id = some next) :
    Retrying limit fromMs id next ∧ stage (state.calls id) + 1 ≤ stage (next.calls id) := by
  unfold Retrying at retrying ⊢
  simp only [RateLimit.advance] at stepped
  cases phase : state.calls id with
  | idle =>
    simp only [phase, Option.some.injEq] at retrying stepped
    subst stepped
    rw [State.goto_calls_self]
    exact ⟨⟨retrying.1, retrying.2, .inl rfl⟩, le_rfl⟩
  | watch nowMs tries =>
    simp only [phase, Option.some.injEq] at retrying stepped
    subst stepped
    obtain ⟨plenty, late, calm⟩ := retrying
    rw [State.goto_calls_self]
    exact ⟨⟨plenty, late, calm, .inl rfl⟩, by simp only [stage]; omega⟩
  | hmget nowMs tries version =>
    simp only [phase, Option.some.injEq] at retrying stepped
    obtain ⟨plenty, late, calm, seen⟩ := retrying
    rw [if_neg (not_lt.mpr (plenty nowMs late))] at stepped
    subst stepped
    rw [State.goto_calls_self]
    exact ⟨⟨plenty, late, calm, seen⟩, by simp only [stage]; omega⟩
  | exec nowMs tries version tokens =>
    simp only [phase] at retrying stepped
    obtain ⟨plenty, late, calm, seen⟩ := retrying
    split_ifs at stepped with unmoved retry
    · obtain rfl := Option.some.inj stepped
      rw [State.goto_calls_self]
      refine ⟨trivial, ?_⟩
      rcases calm with rfl | ⟨rfl, -⟩ <;> simp only [stage] <;> omega
    · obtain rfl := Option.some.inj stepped
      rw [State.goto_calls_self]
      obtain ⟨rfl, gone⟩ := seen.resolve_left unmoved
      exact ⟨⟨plenty, late, .inr ⟨rfl, gone⟩⟩, by simp only [stage]; omega⟩
    · obtain ⟨rfl, -⟩ := seen.resolve_left unmoved
      exact absurd (by decide) retry
  | admitted => simp [phase] at stepped
  | unwatch | hset | pexpire | exceeded =>
    rw [phase] at retrying
    exact retrying.elim

theorem Retrying.stage_le (retrying : Retrying limit fromMs id state) : stage (state.calls id) ≤ 7 := by
  unfold Retrying at retrying
  cases phase : state.calls id with
  | watch nowMs tries =>
    rw [phase] at retrying
    rcases retrying.2.2 with rfl | ⟨rfl, -⟩ <;> simp [stage]
  | hmget nowMs tries version =>
    rw [phase] at retrying
    rcases retrying.2.2.1 with rfl | ⟨rfl, -⟩ <;> simp [stage]
  | exec nowMs tries version tokens =>
    rw [phase] at retrying
    rcases retrying.2.2.1 with rfl | ⟨rfl, -⟩ <;> simp [stage]
  | idle => exact Nat.zero_le 7
  | unwatch | hset | pexpire | admitted | exceeded => exact le_rfl

/-- What a run of time and of the retry's commands comes to. -/
theorem Retrying.run (positive : 0 < limit) {later : List Label} {final : State}
    (only : ∀ label ∈ later, (∃ ms, label = .tick ms) ∨ label = .call id)
    (retrying : Retrying limit fromMs id state) (ran : run? (step limit 1) state later = some final) :
    Retrying limit fromMs id final ∧
      stage (state.calls id) + later.count (.call id) ≤ stage (final.calls id) := by
  induction later generalizing state with
  | nil =>
    obtain rfl := Option.some.inj ran
    exact ⟨retrying, le_rfl⟩
  | cons label rest ih =>
    obtain ⟨here, others⟩ := List.forall_mem_cons.mp only
    obtain ⟨next, stepped, onward⟩ := run?_cons_iff.mp ran
    rcases here with ⟨ms, rfl⟩ | rfl
    · obtain rfl := Option.some.inj stepped
      obtain ⟨final, counted⟩ := ih others (retrying.tick positive ms) onward
      rw [tick_calls] at counted
      exact ⟨final, by simpa using counted⟩
    · obtain ⟨retrying, grown⟩ := retrying.advance stepped
      obtain ⟨final, counted⟩ := ih others retrying onward
      rw [List.count_cons_self]
      exact ⟨final, by omega⟩

/-- Nothing stops a retry before it is admitted. -/
theorem Retrying.goes_on (retrying : Retrying limit fromMs id state) :
    state.calls id = .admitted ∨ ∃ next, RateLimit.advance limit 1 state id = some next := by
  unfold Retrying at retrying
  cases phase : state.calls id with
  | admitted => exact .inl rfl
  | idle | watch | hmget => exact .inr ⟨_, by rw [RateLimit.advance, phase]⟩
  | exec nowMs tries version tokens =>
    right
    simp only [RateLimit.advance, phase]
    split_ifs <;> exact ⟨_, rfl⟩
  | unwatch | hset | pexpire | exceeded =>
    rw [phase] at retrying
    exact retrying.elim

end retry

/-- A call that was denied, and whose bucket no other call has written between its own write and the answer,
may come back. Whoever waits for the seconds of the header with no other call of the tenant around is
admitted within seven steps. -/
theorem retry_admitted (limit : ℕ) (positive : 0 < limit) (labels : List Label) (response : State)
    (ran : run? (step limit 1) {} labels = some response) (id : ℕ) (wait : ℚ)
    (denied : response.calls id = .exceeded wait) (stands : WriteStands limit id labels) :
    ∃ header : ℤ, (∀ state, (Middleware.rateLimitErrorResponse state wait).retryAfterSeconds = some header) ∧
      1 ≤ header ∧ ∀ (retry : ℕ) (waiting later : List Label) (start final : State),
        response.calls retry = .idle →
        (∀ label ∈ waiting, ∃ ms, label = .tick ms) → run? (step limit 1) response waiting = some start →
        (response.clock : ℤ) + 1000 * header ≤ start.clock →
        (∀ label ∈ later, (∃ ms, label = .tick ms) ∨ label = .call retry) →
        run? (step limit 1) start later = some final →
          (∀ wait, final.calls retry ≠ .exceeded wait) ∧ later.count (.call retry) ≤ 7 ∧
            (final.calls retry = .admitted ∨ ∃ next, step limit 1 final (.call retry) = some next) := by
  refine ⟨retryAfterHeader wait, fun state => header_of_response state wait, le_max_left .., ?_⟩
  intro retry waiting later start final idle ticks waited late only done
  have plenty : Plenty limit start.clock response.bucket :=
    (promise_of_run ran stands).plenty positive (sane_of_run ran) denied late
  have began : start.calls retry = .idle ∧ Plenty limit start.clock start.bucket := by
    have passes {fromMs : ℕ} (state : State) (labels : List Label)
        (ticks : ∀ label ∈ labels, ∃ ms, label = Label.tick ms)
        (resting : state.calls retry = .idle ∧ Plenty limit fromMs state.bucket) {last : State}
        (ran : run? (step limit 1) state labels = some last) :
        last.calls retry = .idle ∧ Plenty limit fromMs last.bucket := by
      induction labels generalizing state with
      | nil =>
        obtain rfl := Option.some.inj ran
        exact resting
      | cons label rest ih =>
        obtain ⟨⟨ms, rfl⟩, others⟩ := List.forall_mem_cons.mp ticks
        obtain ⟨next, stepped, onward⟩ := run?_cons_iff.mp ran
        obtain rfl := Option.some.inj stepped
        refine ih _ others ⟨?_, resting.2.tick positive ms⟩ onward
        rw [tick_calls]
        exact resting.1
    exact passes response waiting ticks ⟨idle, plenty⟩ waited
  have retrying : Retrying limit start.clock retry start := by
    rw [Retrying, began.1]
    exact ⟨began.2, le_rfl⟩
  obtain ⟨ended, counted⟩ := retrying.run positive only done
  refine ⟨fun wait refused => ?_, ?_, ended.goes_on⟩
  · rw [Retrying, refused] at ended
    exact ended
  · have bounded := ended.stage_le
    omega

theorem run_calls {limit id : ℕ} {state final : State} {labels : List Label} (absent : Label.call id ∉ labels)
    (ran : run? (step limit 1) state labels = some final) : final.calls id = state.calls id := by
  induction labels generalizing state with
  | nil =>
    obtain rfl := Option.some.inj ran
    rfl
  | cons label rest ih =>
    obtain ⟨different, absent⟩ := not_or.mp (mt List.mem_cons.mpr absent)
    obtain ⟨next, stepped, onward⟩ := run?_cons_iff.mp ran
    rw [ih absent onward]
    cases label with
    | tick ms =>
      obtain rfl := Option.some.inj stepped
      exact congrFun (tick_calls state ms) id
    | call other => exact advance_calls stepped fun same => different (congrArg Label.call same)

/-- A call that runs alone from its first command on is left alone. -/
theorem writeStands_of_alone {limit id : ℕ} {earlier own : List Label} (absent : Label.call id ∉ earlier)
    (alone : ∀ label ∈ own, label = .call id) : WriteStands limit id (earlier ++ own) := by
  have leftAlone (labels : List Label) (mine : ∀ label ∈ labels, label = .call id) (state : State) :
      Along (step limit 1) (LeftAlone id) state labels := by
    induction labels generalizing state with
    | nil => trivial
    | cons label rest ih =>
      obtain ⟨rfl, others⟩ := List.forall_mem_cons.mp mine
      exact ⟨fun other => absurd rfl other, fun next _ => ih others next⟩
  intro before later writing nowMs tokens split _ _
  refine leftAlone _ ?_ writing
  rcases List.append_eq_append_iff.mp split with ⟨middle, -, calls⟩ | ⟨middle, front, calls⟩
  · exact fun label member => alone label (calls ▸ List.mem_append_right _ member)
  · cases middle with
    | nil => exact calls ▸ alone
    | cons label middle =>
      obtain rfl := (List.cons.inj calls).1
      exact absurd (front ▸ List.mem_append_right _ (List.mem_cons_self ..)) absent

/-- A token a minute: the second call comes a second too early, and once more with the third. -/
def earlyCall : List Label := [.call 0, .call 0, .call 0, .call 0, .tick 59000] ++ List.replicate 6 (.call 1)

theorem retry_admitted_early : ∃ response start final, run? (step 1 1) {} earlyCall = some response ∧
    response.calls 1 = .exceeded 1 ∧ run? (step 1 1) response [.tick 1000] = some start ∧
    run? (step 1 1) start (List.replicate 4 (.call 2)) = some final ∧
      ∀ wait, final.calls 2 ≠ .exceeded wait := by
  have refused : (run? (step 1 1) {} earlyCall).map (fun state => (state.calls 1, state.calls 2, state.clock)) =
      some (.exceeded 1, .idle, 59000) := by
    decide +kernel
  obtain ⟨response, ran, phases⟩ := Option.map_eq_some_iff.mp refused
  obtain ⟨denied, idle, clock⟩ : response.calls 1 = .exceeded 1 ∧ response.calls 2 = .idle ∧
    response.clock = 59000 := by
    simpa using phases
  have admitted :
      (run? (step 1 1) {} (earlyCall ++ ([.tick 1000] ++ List.replicate 4 (.call 2)))).isSome = true := by
    decide +kernel
  obtain ⟨final, all⟩ := Option.isSome_iff_exists.mp admitted
  obtain ⟨response', same, onward⟩ := run?_append_iff.mp all
  obtain rfl := Option.some.inj (ran.symm.trans same)
  obtain ⟨start, waited, done⟩ := run?_append_iff.mp onward
  obtain ⟨header, given, -, admits⟩ := retry_admitted 1 (by decide) earlyCall response ran 1 1 denied
    (writeStands_of_alone (by decide) (by decide))
  obtain rfl : (1 : ℤ) = header := by simpa [header_of_response, retryAfterHeader] using given {}
  have later : start.clock = 60000 := by
    obtain rfl := Option.some.inj waited
    rw [tick_clock, clock]
  refine ⟨response, start, final, ran, denied, waited, done,
    (admits 2 [.tick 1000] _ start final idle ?_ waited ?_ ?_ done).1⟩
  · exact fun label member => ⟨1000, List.mem_singleton.mp member⟩
  · rw [clock, later]
    decide
  · exact fun label member => .inr (List.eq_of_mem_replicate member)

/-- The same with a third call that is admitted before the second one has its answer. -/
def overtakenCall : List Label :=
  [.call 0, .call 0, .call 0, .call 0, .tick 59000] ++ List.replicate 5 (.call 1) ++
    (.tick 1000 :: List.replicate 4 (.call 2)) ++ [.call 1]

/-- Nothing else is under way when the answer with its header of a second is out, and nothing else follows
but the retry a second later, which is denied. -/
theorem retry_denied_overtaken : ∃ response start final, run? (step 1 1) {} overtakenCall = some response ∧
    response.calls 1 = .exceeded 1 ∧
    (Middleware.rateLimitErrorResponse {} 1).retryAfterSeconds = some 1 ∧
    (∀ id, id ≠ 1 → response.calls id = .idle ∨ response.calls id = .admitted) ∧
    run? (step 1 1) response [.tick 1000] = some start ∧
    run? (step 1 1) start (List.replicate 6 (.call 3)) = some final ∧
      ∃ wait, final.calls 3 = .exceeded wait := by
  have refused : (run? (step 1 1) {} overtakenCall).map
      (fun state => (state.calls 0, state.calls 1, state.calls 2)) =
      some (.admitted, .exceeded 1, .admitted) := by
    decide +kernel
  obtain ⟨response, ran, phases⟩ := Option.map_eq_some_iff.mp refused
  obtain ⟨first, denied, second⟩ : response.calls 0 = .admitted ∧ response.calls 1 = .exceeded 1 ∧
      response.calls 2 = .admitted := by
    simpa using phases
  have again : (run? (step 1 1) {} (overtakenCall ++ ([.tick 1000] ++ List.replicate 6 (.call 3)))).map
      (fun state => state.calls 3) = some (.exceeded 59) := by
    decide +kernel
  obtain ⟨final, all, refusedAgain⟩ := Option.map_eq_some_iff.mp again
  obtain ⟨response', same, onward⟩ := run?_append_iff.mp all
  obtain rfl := Option.some.inj (ran.symm.trans same)
  obtain ⟨start, waited, done⟩ := run?_append_iff.mp onward
  refine ⟨response, start, final, ran, denied, by decide +kernel, fun id other => ?_, waited, done, 59,
    refusedAgain⟩
  rcases id with _ | _ | _ | id
  · exact .inr first
  · exact absurd rfl other
  · exact .inr second
  · left
    have absent : Label.call (id + 3) ∉ overtakenCall := by simp [overtakenCall]
    rw [run_calls absent ran]

end LlmopsGateway.RateLimit
