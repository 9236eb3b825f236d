import LlmopsGateway.Soundness.RateLimitWindow

/-! # Calls one after another

When calls do not overlap, the key in Redis is the ideal bucket of the admissions so far: what was left
when it was last written and how long ago that was. Denied calls write the same bucket in other words, and
an expired key has had the time to fill up twice.
-/

namespace LlmopsGateway.RateLimit

open Machine TokenBucket

variable {limit nowMs : ℕ} {cost : ℚ} {stored : Option StoredBucket}

/-- The level of the ideal bucket of a limit. -/
def idealLevel (limit : ℕ) (admissions : List ℚ) (now : ℚ) : ℚ := level limit (refillPerMs limit) admissions now

/-- The key holds the level of the ideal bucket of these admissions as of its last write. -/
structure Holds (limit : ℕ) (admissions : List ℚ) (nowMs : ℕ) (stored : StoredBucket) : Prop where
  fair : Fair (limit : ℚ) (refillPerMs limit) admissions
  past : ∀ instant ∈ admissions, instant ≤ stored.lastRefillMs
  read : stored.lastRefillMs ≤ nowMs
  tokens : stored.tokens = idealLevel limit admissions stored.lastRefillMs
  expiresAt : stored.expiresAt = stored.lastRefillMs + 120000

/-- Before the first call there is no key. -/
def Tracks (limit : ℕ) (admissions : List ℚ) (nowMs : ℕ) (stored : Option StoredBucket) : Prop :=
  match stored with
  | none => admissions = []
  | some stored => Holds limit admissions nowMs stored

variable {admissions : List ℚ}

theorem Holds.later {stored : StoredBucket} (holds : Holds limit admissions nowMs stored) {laterMs : ℕ}
    (ordered : nowMs ≤ laterMs) : Holds limit admissions laterMs stored :=
  { holds with read := holds.read.trans ordered }

theorem Tracks.later (tracks : Tracks limit admissions nowMs stored) {laterMs : ℕ} (ordered : nowMs ≤ laterMs) :
    Tracks limit admissions laterMs stored := by
  cases stored with
  | none => exact tracks
  | some stored => exact Holds.later tracks ordered

theorem Tracks.fair (tracks : Tracks limit admissions nowMs stored) :
    Fair (limit : ℚ) (refillPerMs limit) admissions ∧ ∀ instant ∈ admissions, instant ≤ (nowMs : ℚ) := by
  cases stored with
  | none =>
    obtain rfl : admissions = [] := tracks
    exact ⟨trivial, nofun⟩
  | some stored =>
    have holds : Holds limit admissions nowMs stored := tracks
    have read : (stored.lastRefillMs : ℚ) ≤ nowMs := Nat.cast_le.mpr holds.read
    exact ⟨holds.fair, fun instant member => (holds.past instant member).trans read⟩

theorem refilled_missing (limit nowMs : ℕ) : refilled limit nowMs none = limit := by
  simp [refilled, capacity]

/-- What a call computes from the bucket is its ideal level by now. -/
theorem refilled_present {bucket : Bucket} (read : bucket.lastRefillMs ≤ nowMs)
    (tokens : bucket.tokens = idealLevel limit admissions bucket.lastRefillMs) :
    refilled limit nowMs (some bucket) = idealLevel limit admissions nowMs := by
  have elapsed : (bucket.lastRefillMs : ℚ) ≤ nowMs := Nat.cast_le.mpr read
  have positive : 0 ≤ ((nowMs : ℚ) - bucket.lastRefillMs) / 1000 := by linarith
  rw [idealLevel, level_advance (refillPerMs_nonneg limit) elapsed, ← idealLevel, ← tokens]
  simp only [refilled, Option.map_some, Option.getD_some, max_eq_right positive, capacity, refillRate,
    refillPerMs]
  congr 2
  ring

/-- The tokens a call finds are the ideal level, whether or not the key has expired. -/
theorem Tracks.refilled_eq (tracks : Tracks limit admissions nowMs stored) :
    refilled limit nowMs ((live nowMs stored).map (·.toBucket)) =
      idealLevel limit admissions nowMs := by
  cases stored with
  | none =>
    obtain rfl : admissions = [] := tracks
    exact refilled_missing limit nowMs
  | some stored =>
    have holds : Holds limit admissions nowMs stored := tracks
    by_cases alive : nowMs < stored.expiresAt
    · have kept : live nowMs (some stored) = some stored := Option.filter_some_pos (decide_eq_true alive)
      rw [kept]
      exact refilled_present holds.read holds.tokens
    · have gone : live nowMs (some stored) = none := Option.filter_some_neg (by simpa using alive)
      have expired : (stored.lastRefillMs : ℚ) + 120000 ≤ nowMs := by
        rw [holds.expiresAt, not_lt] at alive
        exact_mod_cast alive
      have filled : (limit : ℚ) ≤ 120000 * refillPerMs limit := by
        have amount : (0 : ℚ) ≤ limit := Nat.cast_nonneg limit
        rw [refillPerMs]
        linarith
      rw [gone]
      refine (refilled_missing limit nowMs).trans
        (level_of_idle (refillPerMs_nonneg limit) holds.fair filled ?_).symm
      intro instant member
      linarith [holds.past instant member]

/-- An admitted call takes its token from the ideal bucket. -/
theorem idealLevel_admitted (now : ℚ) :
    idealLevel limit (now :: admissions) now = idealLevel limit admissions now - 1 := by
  have capped : idealLevel limit admissions now ≤ limit := level_le_capacity now
  have spent : level (limit : ℚ) (refillPerMs limit) (now :: admissions) now =
      min (limit : ℚ) (idealLevel limit admissions now - 1 + (now - now) * refillPerMs limit) := rfl
  rw [idealLevel, spent, sub_self, zero_mul, add_zero]
  exact min_eq_right (by linarith)

theorem holds_written {tokens : ℚ} (fair : Fair (limit : ℚ) (refillPerMs limit) admissions)
    (past : ∀ instant ∈ admissions, instant ≤ (nowMs : ℚ))
    (level : tokens = idealLevel limit admissions nowMs) :
    Holds limit admissions nowMs { tokens, lastRefillMs := nowMs, expiresAt := nowMs + 120000 } :=
  ⟨fair, past, le_rfl, level, rfl⟩

theorem Holds.tokens_mem {stored : StoredBucket} (holds : Holds limit admissions nowMs stored) :
    0 ≤ stored.tokens ∧ stored.tokens ≤ limit := by
  rw [holds.tokens]
  exact ⟨level_nonneg (Nat.cast_nonneg limit) (refillPerMs_nonneg limit) holds.fair holds.past,
    level_le_capacity _⟩

/-- One call: it is admitted exactly if the ideal bucket has a token, and the key tracks the ideal bucket
afterwards. -/
theorem consumeToken_tracks (positive : 0 < limit) (tracks : Tracks limit admissions nowMs stored) :
    ((consumeToken limit 1 nowMs stored).2 = none ↔ 1 ≤ idealLevel limit admissions nowMs) ∧
      Holds limit (if 1 ≤ idealLevel limit admissions nowMs then nowMs :: admissions else admissions) nowMs
        (consumeToken limit 1 nowMs stored).1 := by
  obtain ⟨fair, past⟩ := tracks.fair
  rw [consumeToken, tracks.refilled_eq, ttlMs_eq positive]
  by_cases token : 1 ≤ idealLevel limit admissions nowMs
  · simp only [not_lt.mpr token, token, if_true, if_false]
    refine ⟨by simp, holds_written ⟨token, past, fair⟩ ?_ (idealLevel_admitted _).symm⟩
    exact List.forall_mem_cons.mpr ⟨le_rfl, past⟩
  · simp only [not_le.mp token, token, if_true, if_false]
    exact ⟨by simp, holds_written fair past rfl⟩

/-- `check_and_increment` at one instant after another, with what each call leaves under the key. -/
def checkAll (service : RateLimitService) (limitPerMinute : Option ℤ) :
    Option StoredBucket → List ℕ → List (Except ℚ Unit × Option StoredBucket)
  | _, [] => []
  | stored, nowMs :: later =>
    let served := checkAndIncrement service limitPerMinute 1 nowMs stored
    served :: checkAll service limitPerMinute served.2 later

/-- A call with the default cost of a token is admitted by the ideal bucket's level. -/
theorem checkAndIncrement_tracks {service : RateLimitService} {limitPerMinute : Option ℤ}
    (metered : service.limit? limitPerMinute = some limit) (positive : 0 < limit)
    (tracks : Tracks limit admissions nowMs stored) :
    ∃ written, (checkAndIncrement service limitPerMinute 1 nowMs stored).2 = some written ∧
      (checkAndIncrement service limitPerMinute 1 nowMs stored).1.isOk =
        decide (1 ≤ idealLevel limit admissions nowMs) ∧
      Holds limit (if 1 ≤ idealLevel limit admissions nowMs then nowMs :: admissions else admissions) nowMs
        written := by
  obtain ⟨admitted, holds⟩ := consumeToken_tracks positive tracks
  rcases served : consumeToken limit 1 nowMs stored with ⟨written, _ | retryAfter⟩
  · rw [served] at admitted holds
    refine ⟨written, ?_, ?_, holds⟩
    · simp only [checkAndIncrement, metered, served]
    · simp only [checkAndIncrement, metered, served]
      exact (decide_eq_true (admitted.mp rfl)).symm
  · rw [served] at admitted holds
    refine ⟨written, ?_, ?_, holds⟩
    · simp only [checkAndIncrement, metered, served]
    · simp only [checkAndIncrement, metered, served]
      exact (decide_eq_false fun token => nomatch admitted.mpr token).symm

theorem positive_of_limit? {service : RateLimitService} {limitPerMinute : Option ℤ}
    (metered : service.limit? limitPerMinute = some limit) : 0 < limit := by
  simp only [RateLimitService.limit?, Option.ite_none_left_eq_some, Bool.or_eq_true, Bool.not_eq_true',
    decide_eq_true_eq, not_or, not_le] at metered
  obtain ⟨⟨-, positive⟩, same⟩ := metered
  obtain rfl := Option.some.inj same
  exact Int.pos_iff_toNat_pos.mp positive

theorem checkAll_tracks {service : RateLimitService} {limitPerMinute : Option ℤ}
    (metered : service.limit? limitPerMinute = some limit) {times : List ℕ} (ordered : times.Pairwise (· ≤ ·))
    (tracks : ∀ nowMs ∈ times.head?, Tracks limit admissions nowMs stored) :
    (checkAll service limitPerMinute stored times).map (·.1.isOk) =
        admits (limit : ℚ) (refillPerMs limit) admissions (instants times) ∧
      ∀ served ∈ checkAll service limitPerMinute stored times, ∀ written ∈ served.2,
        0 ≤ written.tokens ∧ written.tokens ≤ limit := by
  induction times generalizing admissions stored with
  | nil => exact ⟨rfl, nofun⟩
  | cons nowMs later ih =>
    obtain ⟨first, ordered⟩ := List.pairwise_cons.mp ordered
    obtain ⟨written, left, admitted, holds⟩ :=
      checkAndIncrement_tracks metered (positive_of_limit? metered) (tracks nowMs rfl)
    have next nextMs (head : nextMs ∈ later.head?) : Tracks limit
        (if 1 ≤ idealLevel limit admissions nowMs then nowMs :: admissions
          else admissions) nextMs (some written) :=
      holds.later (first nextMs (List.mem_of_mem_head? head))
    obtain ⟨agree, within⟩ := ih ordered next
    rw [checkAll, left]
    constructor
    · rw [List.map_cons, agree, admitted]
      rfl
    · rw [List.forall_mem_cons]
      refine ⟨fun other same => ?_, within⟩
      obtain rfl := Option.some.inj (left.symm.trans same)
      exact holds.tokens_mem

/-- Calls of a tenant that do not overlap, at clock readings that do not go back, are admitted exactly as by
a bucket that is full at first, refills continuously and loses a token for each call it admits; what is
stored stays between nothing and the limit. -/
theorem sequential_refines_ideal (service : RateLimitService) (limitPerMinute : Option ℤ) (limit : ℕ)
    (metered : service.limit? limitPerMinute = some limit) (times : List ℕ) (ordered : times.Pairwise (· ≤ ·)) :
    (checkAll service limitPerMinute none times).map (·.1.isOk) =
        admits (limit : ℚ) (refillPerMs limit) [] (instants times) ∧
      ∀ served ∈ checkAll service limitPerMinute none times, ∀ written ∈ served.2,
        0 ≤ written.tokens ∧ written.tokens ≤ limit :=
  checkAll_tracks metered ordered fun _ _ => rfl

/-- A burst on a limit of two, and another after the key has expired. -/
def burst : List ℕ := [0, 0, 0, 30000, 30000, 150000, 150000, 150000]

theorem sequential_burst :
    (checkAll { defaultLimitPerMinute := 60 } (some 2) none burst).map (·.1.isOk) =
        admits ((2 : ℕ) : ℚ) (refillPerMs 2) [] (instants burst) ∧
      ∀ served ∈ checkAll { defaultLimitPerMinute := 60 } (some 2) none burst, ∀ written ∈ served.2,
        0 ≤ written.tokens ∧ written.tokens ≤ (2 : ℕ) :=
  sequential_refines_ideal { defaultLimitPerMinute := 60 } (some 2) 2 (by decide) burst (by decide)

/-- The key in Redis at the present instant. -/
def State.Stores (state : State) (stored : Option StoredBucket) : Prop :=
  state.bucket = (live state.clock stored).map (·.toBucket) ∧
    state.expiresAt = (live state.clock stored).map (·.expiresAt)

theorem live_later {laterMs : ℕ} (ordered : nowMs ≤ laterMs) (stored : Option StoredBucket) :
    live laterMs stored = live laterMs (live nowMs stored) := by
  cases stored with
  | none => rfl
  | some stored =>
    by_cases alive : nowMs < stored.expiresAt
    · simp [live, Option.filter, alive]
    · have gone : ¬ laterMs < stored.expiresAt := fun later => alive (ordered.trans_lt later)
      simp [live, Option.filter, alive, gone]

/-- Time that passes takes an expired key away in the machine as it does here. -/
theorem State.Stores.tick {state : State} (stores : state.Stores stored) (ms : ℕ) :
    (state.tick ms).Stores stored := by
  obtain ⟨bucket, expiresAt⟩ := stores
  rw [Stores, tick_clock, live_later (Nat.le_add_right state.clock ms)]
  cases present : live state.clock stored with
  | none =>
    rw [present] at bucket expiresAt
    simp [State.tick, bucket, expiresAt, live]
  | some kept =>
    rw [present] at bucket expiresAt
    by_cases due : kept.expiresAt ≤ state.clock + ms
    · simp [State.tick, expiresAt, due, live, Option.filter, not_lt.mpr due]
    · simp [State.tick, bucket, expiresAt, due, live, Option.filter, not_le.mp due]

/-- How a call has ended. -/
def ended (denied : Option ℚ) : Call :=
  match denied with
  | none => .admitted
  | some retryAfter => .exceeded (retryAfterSeconds retryAfter)

theorem ttlMs_pos (limit : ℕ) : 0 < ttlMs limit := by
  unfold ttlMs
  omega

theorem pexpire_clock (state : State) (ms : ℕ) : (state.pexpire ms).clock = state.clock := by
  unfold State.pexpire
  split <;> rfl

/-- A key that has just been written and given its deadline. -/
theorem stores_written (state : State) (bucket : Bucket) (limit : ℕ) :
    ((state.hset bucket).pexpire (ttlMs limit)).Stores
      (some { bucket with expiresAt := state.clock + ttlMs limit }) := by
  have positive := ttlMs_pos limit
  simp [State.Stores, State.hset, State.pexpire, live, Option.filter, positive]

theorem State.Stores.congr {state next : State} (stores : state.Stores stored)
    (clock : next.clock = state.clock)
    (bucket : next.bucket = state.bucket) (expiresAt : next.expiresAt = state.expiresAt) :
    next.Stores stored := by
  rw [Stores, clock, bucket, expiresAt]
  exact stores

/-- The commands of a call up to its `HMGET`. -/
theorem run_hmget {state : State} {id : ℕ} (idle : state.calls id = .idle) (stores : state.Stores stored)
    (limit : ℕ) (cost : ℚ) : ∃ read,
      run? (step limit cost) state [.call id, .call id, .call id] = some read ∧
      read.clock = state.clock ∧ read.version = state.version ∧
      read.calls id = (let tokens := refilled limit state.clock ((live state.clock stored).map (·.toBucket))
        if tokens < cost then .unwatch state.clock tokens else .exec state.clock 0 state.version tokens) := by
  have watching : step limit cost state (.call id) = some (state.goto id (.watch state.clock 0)) := by
    simp only [step, advance, idle]
  let watched := state.goto id (.watch state.clock 0)
  have reading : step limit cost watched (.call id) =
      some (watched.goto id (.hmget state.clock 0 state.version)) := by
    simp only [step, advance, watched, State.goto_calls_self, State.goto_version]
  let found := watched.goto id (.hmget state.clock 0 state.version)
  let tokens := refilled limit state.clock state.bucket
  let next : Call :=
    if tokens < cost then .unwatch state.clock tokens else .exec state.clock 0 state.version tokens
  have answered : step limit cost found (.call id) = some ((found.observe id).goto id next) := by
    simp only [step, advance, found, State.goto_calls_self]
    rfl
  refine ⟨(found.observe id).goto id next, ?_, rfl, rfl, ?_⟩
  · exact run?_cons_iff.mpr ⟨_, watching, run?_cons_iff.mpr ⟨_, reading, run?_cons_iff.mpr ⟨_, answered, rfl⟩⟩⟩
  · rw [State.goto_calls_self, ← stores.1]

/-- Every command of one call, with nothing in between, does what `consumeToken` says. -/
theorem run_alone {state : State} {id : ℕ} (idle : state.calls id = .idle) (stores : state.Stores stored)
    (limit : ℕ) (cost : ℚ) : ∃ count next,
      run? (step limit cost) state (List.replicate count (.call id)) = some next ∧
      next.calls id = ended (consumeToken limit cost state.clock stored).2 ∧
      next.clock = state.clock ∧ next.Stores (some (consumeToken limit cost state.clock stored).1) := by
  obtain ⟨read, ran, clock, version, phase⟩ := run_hmget idle stores limit cost
  unfold consumeToken
  generalize refilled limit state.clock ((live state.clock stored).map (·.toBucket)) = tokens at phase ⊢
  by_cases short : tokens < cost
  · simp only [short, if_true] at phase ⊢
    let denied := read.goto id (.hset state.clock tokens)
    have released : step limit cost read (.call id) = some denied := by
      simp only [step, advance, phase, denied]
    let written := (denied.hset ⟨tokens, state.clock⟩).goto id (.pexpire ((cost - tokens) / refillRate limit))
    have wrote : step limit cost denied (.call id) = some written := by
      simp only [step, advance, denied, State.goto_calls_self, written]
    let last := (written.pexpire (ttlMs limit)).goto id
      (.exceeded (retryAfterSeconds ((cost - tokens) / refillRate limit)))
    have expiring : step limit cost written (.call id) = some last := by
      simp only [step, advance, written, State.goto_calls_self, last]
    refine ⟨6, last, run?_append_iff.mpr ⟨read, ran, run?_cons_iff.mpr ⟨_, released,
      run?_cons_iff.mpr ⟨_, wrote, run?_cons_iff.mpr ⟨_, expiring, rfl⟩⟩⟩⟩, ?_, ?_, ?_⟩
    · exact State.goto_calls_self ..
    · exact (pexpire_clock written (ttlMs limit)).trans clock
    · have stored := stores_written denied ⟨tokens, state.clock⟩ limit
      have now : denied.clock = state.clock := clock
      rw [now] at stored
      exact stored.congr rfl rfl rfl
  · simp only [short, if_false] at phase ⊢
    have committed : step limit cost read (.call id) =
        some ((((read.hset ⟨tokens - cost, state.clock⟩).pexpire
          (ttlMs limit)).recordAdmission).goto id .admitted) := by
      simp only [step, advance, phase, version, if_true]
    refine ⟨4, _, run?_append_iff.mpr ⟨read, ran, run?_cons_iff.mpr ⟨_, committed, rfl⟩⟩, ?_, ?_, ?_⟩
    · exact State.goto_calls_self ..
    · exact (pexpire_clock _ (ttlMs limit)).trans clock
    · have stored := stores_written read ⟨tokens - cost, state.clock⟩ limit
      rw [clock] at stored
      exact stored.congr rfl rfl rfl

end LlmopsGateway.RateLimit
