import LlmopsGateway.Machine.Amortized
import LlmopsGateway.Soundness.RetryAfter

/-! # Overtaking at the bucket

A call retries only when its `EXEC` finds the key changed, and only other calls and expiries change it while
the call is in its loop. So whoever loses a round has been overtaken: a call refused for contention has lost
five rounds to others, each of which changes the key at most twice.
-/

namespace LlmopsGateway.RateLimit

open Machine

variable {limit : ℕ} {cost : ℚ} {state next before final : State} {id other : ℕ} {labels : List Label}

/-- The places a call goes through, with the version of the key before and after its command. -/
inductive Command : ℕ → Call → ℕ → Call → Prop
  | start {version nowMs : ℕ} : Command version .idle version (.watch nowMs 0)
  | watch {version nowMs tries : ℕ} : Command version (.watch nowMs tries) version (.hmget nowMs tries version)
  | afford {version nowMs tries seen : ℕ} {tokens : ℚ} :
      Command version (.hmget nowMs tries seen) version (.exec nowMs tries seen tokens)
  | deny {version nowMs tries seen : ℕ} {tokens : ℚ} :
      Command version (.hmget nowMs tries seen) version (.unwatch nowMs tokens)
  | commit {version later nowMs tries : ℕ} {tokens : ℚ} :
      Command version (.exec nowMs tries version tokens) later .admitted
  | lose {version nowMs tries seen : ℕ} {tokens : ℚ} (stale : seen ≠ version) (again : tries + 1 < 5) :
      Command version (.exec nowMs tries seen tokens) version (.watch nowMs (tries + 1))
  | giveUp {version nowMs tries seen : ℕ} {tokens wait : ℚ} (stale : seen ≠ version) (last : 5 ≤ tries + 1) :
      Command version (.exec nowMs tries seen tokens) version (.exceeded wait)
  | unwatch {version nowMs : ℕ} {tokens : ℚ} :
      Command version (.unwatch nowMs tokens) version (.hset nowMs tokens)
  | hset {version later nowMs : ℕ} {tokens retryAfter : ℚ} :
      Command version (.hset nowMs tokens) later (.pexpire retryAfter)
  | pexpire {version later : ℕ} {retryAfter wait : ℚ} :
      Command version (.pexpire retryAfter) later (.exceeded wait)

theorem advance_command (stepped : advance limit cost state id = some next) :
    Command state.version (state.calls id) next.version (next.calls id) ∧
      ∀ other, other ≠ id → next.calls other = state.calls other := by
  have moved {between : State} {call : Call} (calls : between.calls = state.calls) (other : ℕ)
      (different : other ≠ id) : (between.goto id call).calls other = state.calls other := by
    rw [State.goto_calls_of_ne _ _ _ different, calls]
  simp only [advance] at stepped
  split at stepped
  · next phase =>
    obtain rfl := Option.some.inj stepped
    rw [phase, State.goto_calls_self]
    exact ⟨.start, moved rfl⟩
  · next phase =>
    obtain rfl := Option.some.inj stepped
    rw [phase, State.goto_calls_self]
    exact ⟨.watch, moved rfl⟩
  · next phase =>
    obtain rfl := Option.some.inj stepped
    rw [phase, State.goto_calls_self]
    refine ⟨?_, moved rfl⟩
    split
    · exact .deny
    · exact .afford
  · next phase =>
    rw [phase]
    split_ifs at stepped with fresh again
    · obtain rfl := Option.some.inj stepped
      subst fresh
      rw [State.goto_calls_self]
      exact ⟨.commit, moved (pexpire_calls _ _)⟩
    · obtain rfl := Option.some.inj stepped
      rw [State.goto_calls_self]
      exact ⟨.lose fresh again, moved rfl⟩
    · obtain rfl := Option.some.inj stepped
      rw [State.goto_calls_self]
      exact ⟨.giveUp fresh (not_lt.mp again), moved rfl⟩
  · next phase =>
    obtain rfl := Option.some.inj stepped
    rw [phase, State.goto_calls_self]
    exact ⟨.unwatch, moved rfl⟩
  · next phase =>
    obtain rfl := Option.some.inj stepped
    rw [phase, State.goto_calls_self]
    exact ⟨.hset, moved rfl⟩
  · next phase =>
    obtain rfl := Option.some.inj stepped
    rw [phase, State.goto_calls_self]
    exact ⟨.pexpire, moved (pexpire_calls _ _)⟩
  · cases stepped
  · cases stepped

section rounds

/-- The changes of the key a call may still make. -/
def changesLeft : Call → ℕ
  | .pexpire _ => 1
  | .admitted | .exceeded _ => 0
  | _ => 2

/-- The rounds a call has lost, the running one included if the key has changed since its `WATCH`. -/
def roundsLost (version : ℕ) : Call → ℕ
  | .watch _ tries => tries
  | .hmget _ tries seen | .exec _ tries seen _ => tries + if seen = version then 0 else 1
  | _ => 0

/-- Time takes the key away. -/
def expiry (state : State) : Label → ℕ
  | .tick ms => if state.expiresAt.any (· ≤ state.clock + ms) then 1 else 0
  | .call _ => 0

/-- The other calls that take part in a run. -/
def overtakers (id : ℕ) (labels : List Label) : Finset ℕ :=
  (labels.filterMap fun
    | .tick _ => none
    | .call other => some other).toFinset.erase id

theorem roundsLost_le (version later : ℕ) (call : Call) :
    roundsLost later call ≤ 1 + roundsLost version call := by
  cases call with
  | hmget nowMs tries seen | exec nowMs tries seen tokens =>
    simp only [roundsLost]
    split_ifs <;> omega
  | idle | watch nowMs tries | unwatch nowMs tokens | hset nowMs tokens | pexpire retryAfter | admitted
  | exceeded wait =>
    simp [roundsLost]

theorem Command.roundsLost {version later : ℕ} {call moved : Call}
    (command : Command version call later moved) :
    RateLimit.roundsLost later moved ≤ RateLimit.roundsLost version call := by
  cases command with
  | lose stale again => simp [RateLimit.roundsLost, stale]
  | start | watch | afford | deny | commit | giveUp | unwatch | hset | pexpire => simp [RateLimit.roundsLost]

/-- A change of the key is paid for by the call that makes it. -/
theorem Command.changesLeft {version later : ℕ} {call moved : Call}
    (command : Command version call later moved) :
    RateLimit.changesLeft moved ≤ RateLimit.changesLeft call ∧
      (later = version ∨ 1 + RateLimit.changesLeft moved ≤ RateLimit.changesLeft call) := by
  cases command <;> simp [RateLimit.changesLeft]

theorem changesLeft_le (call : Call) : changesLeft call ≤ 2 := by
  cases call <;> simp [changesLeft]

theorem tick_version (state : State) (ms : ℕ) :
    (state.tick ms).version = state.version ∨ expiry state (.tick ms) = 1 := by
  rw [State.tick, expiry]
  split
  · exact .inr rfl
  · exact .inl rfl

/-- A step raises the lost rounds of a call and the changes the others have left by no more than an expiry. -/
theorem step_pays {parties : Finset ℕ} (member : ∀ other, Label.call other ∈ labels →
    other = id ∨ other ∈ parties)
    (foreign : id ∉ parties) {label : Label} (listed : label ∈ labels)
    (stepped : step limit cost state label = some next) :
    roundsLost next.version (next.calls id) + ∑ party ∈ parties, changesLeft (next.calls party) ≤
      expiry state label +
        (roundsLost state.version (state.calls id) + ∑ party ∈ parties, changesLeft (state.calls party)) := by
  cases label with
  | tick ms =>
    obtain rfl := Option.some.inj stepped
    rw [tick_calls]
    rcases tick_version state ms with same | expired
    · rw [same]
      omega
    · have lost := roundsLost_le state.version (state.tick ms).version (state.calls id)
      rw [expired]
      omega
  | call other =>
    obtain ⟨command, kept⟩ := advance_command stepped
    by_cases own : other = id
    · subst own
      have lost := command.roundsLost
      have same : ∑ party ∈ parties, changesLeft (next.calls party) =
          ∑ party ∈ parties, changesLeft (state.calls party) := by
        refine Finset.sum_congr rfl fun party present => ?_
        rw [kept party fun clash => foreign (clash ▸ present)]
      rw [same]
      omega
    · have present : other ∈ parties := (member other listed).resolve_left own
      have others (party : ℕ) (different : party ≠ other) :
          changesLeft (next.calls party) = changesLeft (state.calls party) := by
        rw [kept party different]
      obtain ⟨fewer, unchanged | paid⟩ := command.changesLeft
      · have sum := sum_move 0 0 present others (by omega)
        rw [kept id (Ne.symm own), unchanged]
        omega
      · have sum := sum_move 1 0 present others (by omega)
        have lost := roundsLost_le state.version next.version (state.calls id)
        rw [kept id (Ne.symm own)]
        omega

theorem mem_overtakers_of_mem (listed : Label.call other ∈ labels) (different : other ≠ id) :
    other ∈ overtakers id labels :=
  Finset.mem_erase.mpr ⟨different, List.mem_toFinset.mpr (List.mem_filterMap.mpr ⟨_, listed, rfl⟩)⟩

/-- A call has not lost more rounds than keys have expired and than the calls it met could change the key. -/
theorem roundsLost_le_of_run (idle : state.calls id = .idle)
    (ran : run? (step limit cost) state labels = some final) :
    roundsLost final.version (final.calls id) ≤
      total (step limit cost) expiry state labels +
        ∑ party ∈ overtakers id labels, changesLeft (state.calls party) := by
  have paid : total (step limit cost) (fun _ _ => 0) state labels +
      (roundsLost final.version (final.calls id) +
        ∑ party ∈ overtakers id labels, changesLeft (final.calls party)) ≤
      total (step limit cost) expiry state labels +
        (roundsLost state.version (state.calls id) +
          ∑ party ∈ overtakers id labels, changesLeft (state.calls party)) := by
    apply total_le_of_potential (fun _ => True)
      (fun state => roundsLost state.version (state.calls id) +
        ∑ party ∈ overtakers id labels, changesLeft (state.calls party))
      (fun _ _ => 0) expiry (fun _ _ _ _ _ => trivial) _ trivial ran
    intro state next label listed _ stepped
    rw [Nat.zero_add]
    apply step_pays _ (Finset.notMem_erase id _) listed stepped
    intro other member
    by_cases own : other = id
    · exact .inl own
    · exact .inr (mem_overtakers_of_mem member own)
  have fresh : roundsLost state.version (state.calls id) = 0 := by
    rw [idle]
    rfl
  omega

/-- A call that is refused because its fifth `EXEC` fails has lost five rounds, each to an expiry or to a change
by another call in the run, and every other call changes the key twice at most. -/
theorem five_le_of_refused {nowMs tries seen : ℕ} {tokens wait : ℚ} (idle : state.calls id = .idle)
    (ran : run? (step limit cost) state labels = some before)
    (committing : before.calls id = .exec nowMs tries seen tokens)
    (stepped : step limit cost before (.call id) = some next) (refused : next.calls id = .exceeded wait) :
    5 ≤ total (step limit cost) expiry state labels + 2 * (overtakers id labels).card := by
  have lost : 5 ≤ roundsLost before.version (before.calls id) := by
    obtain ⟨command, -⟩ := advance_command stepped
    rw [committing, refused] at command
    rw [committing, roundsLost]
    generalize before.version = version, next.version = later at command ⊢
    cases command with
    | giveUp stale last =>
      rw [if_neg stale]
      exact last
  have changes : ∑ party ∈ overtakers id labels, changesLeft (state.calls party) ≤
      (overtakers id labels).card * 2 :=
    Finset.sum_le_card_nsmul _ _ 2 fun party _ => changesLeft_le (state.calls party)
  have bound := roundsLost_le_of_run idle ran
  omega

/-- Five other calls are admitted, each between an `HMGET` and the `EXEC` of the first call. -/
def overtaken : List Label :=
  .call 0 :: ([1, 2, 3, 4].flatMap fun other => [.call 0, .call 0] ++ List.replicate 4 (.call other) ++
    [.call 0]) ++
    ([.call 0, .call 0] ++ List.replicate 4 (.call 5))

theorem five_le_of_refused_overtaken : ∃ before next, run? (step 10 1) {} overtaken = some before ∧
    step 10 1 before (.call 0) = some next ∧ next.calls 0 = .exceeded 6 ∧
    5 ≤ total (step 10 1) expiry {} overtaken + 2 * (overtakers 0 overtaken).card := by
  have refused : (run? (step 10 1) {} (overtaken ++ [.call 0])).map (fun state => state.calls 0) =
      some (.exceeded 6) := by
    decide +kernel
  have committing : (run? (step 10 1) {} overtaken).map (fun state => state.calls 0) =
      some (.exec 0 4 8 6) := by
    decide +kernel
  obtain ⟨next, ran, answer⟩ := Option.map_eq_some_iff.mp refused
  obtain ⟨before, ran, stepped⟩ := run?_concat_iff.mp ran
  obtain ⟨same, ran', place⟩ := Option.map_eq_some_iff.mp committing
  obtain rfl := Option.some.inj (ran.symm.trans ran')
  exact ⟨before, next, ran, stepped, answer, five_le_of_refused rfl ran place stepped answer⟩

end rounds

end LlmopsGateway.RateLimit
