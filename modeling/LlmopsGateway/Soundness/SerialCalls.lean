import LlmopsGateway.Machine.Simulation
import LlmopsGateway.Soundness.RetryAmplification
import LlmopsGateway.Soundness.RetryRuns

/-! # Overlapping calls are retry loops

The calls on one provider meet in its breaker, and a call asks the breaker once, when it comes in. From then on
it is the retry loop over what its own upstream calls yield, wherever the steps of other calls fall. So what is
proved of the loop, which knows of no other call, holds of every call of the machine.
-/

namespace LlmopsGateway

open Machine

/-- What the machine sees of the loop's events. -/
inductive Act
  | called (call : ℕ)
  | chunk
  | recordSuccess
  | recordFailure
deriving DecidableEq, Repr

def UpstreamEvent.act? {κ : Type} : UpstreamEvent κ → Option Act
  | .called _ _ call => some (.called call)
  | .chunk _ => some .chunk
  | .recordSuccess _ => some .recordSuccess
  | .recordFailure _ => some .recordFailure
  | .selected .. => none

def UpstreamEvent.acts {κ : Type} (events : List (UpstreamEvent κ)) : List Act := events.filterMap act?

namespace BaseLLMProvider

variable {settings : Settings} {state next final : State} {label : Label} {labels : List Label} {id : ℕ}
  {name : String} {request : ChatRequest} {played : ℕ → Played} {n count : ℕ}

/-- What a step does for one call. -/
def acts (settings : Settings) (id : ℕ) (state : State) (label : Label) : List Act :=
  if label.party = some id then
    match label, state.calls id with
    | .arrive .., _ =>
      if state.circuit.allowRequest settings.circuit state.clock then [.called 0] else []
    | .yieldChunk _, _ => [.chunk]
    | .succeed _, _ => [.recordSuccess]
    | .fail .., _ => [.recordFailure]
    | .retry _, .sleeping _ attempt _ => [.called (attempt + 1)]
    | .retry _, _ | .tick _, _ | .escape _, _ => []
  else []

theorem calls_goto (state : State) (id : ℕ) (phase : Call) : (state.goto id phase).calls id = phase :=
  Function.update_self ..

/-- Another call's step. -/
theorem frame (stepped : step settings state label = some next) (foreign : label.party ≠ some id) :
    next.calls id = state.calls id ∧ acts settings id state label = [] := by
  refine ⟨?_, if_neg foreign⟩
  rcases spends_of_step stepped with ⟨calls, -⟩ | ⟨mover, party, others, -⟩
  · rw [calls]
  · apply others
    rintro rfl
    exact foreign party

section script

/-- The upstream calls of a call, from what they yield. A completion yields no chunk. -/
def scripted (request : ChatRequest) (played : ℕ → Played) (n : ℕ) : Logged Raised (UpstreamEvent Unit) Unit :=
  streaming () request n (played n)

theorem yieldedAny_scripted :
    UpstreamEvent.yieldedAny (scripted request played n).events = !(played n).chunks.isEmpty := by
  cases chunks : (played n).chunks <;>
    simp [scripted, streaming, UpstreamEvent.yieldedAny, UpstreamEvent.text?, chunks]

theorem retried_scripted_iff : Retried (scripted request played n) ↔
    (played n).chunks = [] ∧ ∃ error, (played n).ending = .error error ∧ error.retryable = true := by
  rw [Retried, yieldedAny_scripted]
  cases ending : (played n).ending with
  | ok => simp [scripted, streaming, ending, Except.mapError]
  | error error =>
    simp [scripted, streaming, ending, Except.mapError, and_comm]

theorem acts_chunks (chunks : List String) :
    UpstreamEvent.acts (chunks.map .chunk : List (UpstreamEvent Unit)) =
      List.replicate chunks.length .chunk := by
  induction chunks with
  | nil => rfl
  | cons text rest ih =>
    rw [List.length_cons, List.replicate_succ, ← ih]
    rfl

/-- The record of an upstream call. -/
def record : Except ProviderError Unit → Act
  | .ok () => .recordSuccess
  | .error _ => .recordFailure

/-- An upstream call with its record, as the machine sees it. -/
theorem acts_settled : UpstreamEvent.acts (settled name (scripted request played n)).events =
    .called n :: (List.replicate (played n).chunks.length .chunk ++ [record (played n).ending]) := by
  rw [← acts_chunks]
  cases ending : (played n).ending with
  | ok => simp [settled, scripted, streaming, ending, Except.mapError, UpstreamEvent.acts,
      UpstreamEvent.act?, record]
  | error =>
    simp [settled, scripted, streaming, ending, Except.mapError, UpstreamEvent.acts, UpstreamEvent.act?, record]

/-- The first calls with their records. -/
def done (name : String) (request : ChatRequest) (played : ℕ → Played) (n : ℕ) : List Act :=
  UpstreamEvent.acts (settledLog name (scripted request played) 0 n)

theorem done_succ : done name request played (n + 1) = done name request played n ++
    .called n :: (List.replicate (played n).chunks.length .chunk ++ [record (played n).ending]) := by
  rw [done, ← settledLog_last, Nat.zero_add, UpstreamEvent.acts, List.filterMap_append]
  exact congrArg (done name request played n ++ ·) acts_settled

variable {other : ℕ → Played}

theorem scripted_congr (same : played n = other n) : scripted request played n = scripted request other n := by
  rw [scripted, scripted, same]

theorem done_congr (same : ∀ k < n, played k = other k) :
    done name request played n = done name request other n := by
  induction n with
  | zero => rfl
  | succ n ih =>
    rw [done_succ, done_succ, same n n.lt_succ_self, ih fun k below => same k (below.trans n.lt_succ_self)]

variable {retries : ℕ}

/-- The first call is always made. -/
theorem reaches_zero : Reaches (scripted request played) retries 0 0 := by
  refine ⟨Nat.zero_le _, fun k below => ?_⟩
  exact absurd below (Nat.not_lt_zero k)

theorem reaches_congr (reaches : Reaches (scripted request played) retries 0 n)
    (same : ∀ k < n, played k = other k) : Reaches (scripted request other) retries 0 n := by
  refine ⟨reaches.within, fun k below => ?_⟩
  obtain ⟨retried, calm⟩ := reaches.earlier k below
  rw [Nat.zero_add] at retried calm ⊢
  have alike : scripted request played k = scripted request other k := scripted_congr (same k below)
  rw [Overflows, alike] at calm
  rw [alike] at retried
  exact ⟨retried, calm⟩

/-- The log grows by the call that the script goes on with. -/
theorem done_extended {yield : Played} (same : ∀ k < n, played k = other k) (here : other n = yield) :
    done name request other (n + 1) = done name request played n ++
      .called n :: (List.replicate yield.chunks.length .chunk ++ [record yield.ending]) := by
  rw [done_succ, here, ← done_congr same]

/-- The loop of one call. -/
def alone (settings : Settings) (name : String) (request : ChatRequest) (played : ℕ → Played) :
    Logged Raised (UpstreamEvent Unit) Unit := guarded name settings.maxRetries true (scripted request played)

theorem alone_eq : alone settings name request played =
    retryLoop name (scripted request played) settings.maxRetries.toNat 0 := by
  rw [alone, guarded, if_pos rfl]

/-- A call that is not tried again ends the loop, and the log with it. -/
theorem alone_ended (name : String)
    (reaches : Reaches (scripted request played) settings.maxRetries.toNat 0 n) {yield : Played}
    (same : ∀ k < n, played k = other k) (here : other n = yield)
    (last : n = settings.maxRetries.toNat ∨ ¬ Retried (scripted request other n)) :
    UpstreamEvent.acts (alone settings name request other).events = done name request played n ++
        .called n :: (List.replicate yield.chunks.length .chunk ++ [record yield.ending]) ∧
      (alone settings name request other).outcome = yield.ending.mapError .provider := by
  have ends : retryLoop name (scripted request other) settings.maxRetries.toNat 0 = _ :=
    (reaches_congr reaches same).ended (by rwa [Nat.zero_add])
  rw [alone_eq, ends, ← done_extended same here, Nat.zero_add, scripted, here]
  exact ⟨rfl, rfl⟩

/-- The log of a call that is tried again and whose backoff is too long for a float. -/
theorem alone_overflowed (name : String)
    (reaches : Reaches (scripted request played) settings.maxRetries.toNat 0 n)
    (below : n < settings.maxRetries.toNat) {error : ProviderError} (same : ∀ k < n, played k = other k)
    (here : other n = ⟨[], .error error⟩) (retryable : error.retryable = true)
    (overflows : backoffOverflows n error.retryAfterSeconds = true) :
    UpstreamEvent.acts (alone settings name request other).events =
      done name request played n ++ [.called n, .recordFailure] := by
  have retried : Retried (scripted request other n) := by
    rw [retried_scripted_iff, here]
    exact ⟨rfl, error, rfl, retryable⟩
  have wild : Overflows (scripted request other) n := by
    refine ⟨error, ?_, overflows⟩
    rw [scripted, here]
    rfl
  have ends : retryLoop name (scripted request other) settings.maxRetries.toNat 0 = _ :=
    (reaches_congr reaches same).overflowed below (by rwa [Nat.zero_add]) (by rwa [Nat.zero_add])
  rw [alone_eq, ends]
  exact done_extended same here

/-- A call that is tried again is behind the loop. -/
theorem reaches_extended (reaches : Reaches (scripted request played) settings.maxRetries.toNat 0 n)
    (below : n < settings.maxRetries.toNat) {error : ProviderError} (same : ∀ k < n, played k = other k)
    (here : other n = ⟨[], .error error⟩) (retryable : error.retryable = true)
    (fits : backoffOverflows n error.retryAfterSeconds = false) :
    Reaches (scripted request other) settings.maxRetries.toNat 0 (n + 1) := by
  refine ⟨below, fun k upTo => ?_⟩
  rcases Nat.lt_succ_iff_lt_or_eq.mp upTo with less | rfl
  · exact (reaches_congr reaches same).earlier k less
  · rw [Nat.zero_add, retried_scripted_iff, here]
    refine ⟨⟨rfl, error, rfl, retryable⟩, ?_⟩
    rintro ⟨other, raised, wild⟩
    rw [scripted, here] at raised
    obtain rfl := Raised.provider.inj (Except.error.inj raised)
    rw [fits] at wild
    cases wild

end script

section heard

/-- What the upstream calls of a call have yielded, and how many chunks of the one under way have come. The
machine does not know their texts. -/
structure Heard where
  past : List Played := []
  chunks : ℕ := 0

def Failure.error (failure : Failure) : ProviderError where
  message := ""
  retryable := failure.retryable
  retryAfterSeconds := failure.retryAfterSeconds

namespace Heard

variable {heard : Heard}

def ended (heard : Heard) (ending : Except ProviderError Unit) : Heard where
  past := heard.past ++ [⟨List.replicate heard.chunks "", ending⟩]

def hear (heard : Heard) : Label → Heard
  | .yieldChunk _ => { heard with chunks := heard.chunks + 1 }
  | .succeed _ => heard.ended (.ok ())
  | .fail _ failure _ => heard.ended (.error failure.error)
  | .tick _ | .arrive .. | .retry _ | .escape _ => heard

def underway (heard : Heard) : Played where
  chunks := List.replicate heard.chunks ""
  ending := .ok ()

/-- The script of what has been heard, should the call under way end well. -/
def script (heard : Heard) (n : ℕ) : Played := (heard.past ++ [heard.underway]).getD n ⟨[], .ok ()⟩

theorem script_last (heard : Heard) : heard.script heard.past.length = heard.underway := by
  simp [script]

/-- What is past stays as it is in the script. -/
theorem script_congr {other : Heard} (part : heard.past <+: other.past) :
    ∀ k < heard.past.length, heard.script k = other.script k := by
  intro k below
  obtain ⟨rest, more⟩ := part
  simp [script, ← more, List.getElem?_append_left below]

theorem script_ended_below (heard : Heard) (ending : Except ProviderError Unit) :
    ∀ k < heard.past.length, heard.script k = (heard.ended ending).script k :=
      script_congr (List.prefix_append ..)

theorem script_ended_last (heard : Heard) (ending : Except ProviderError Unit) :
    (heard.ended ending).script heard.past.length = ⟨List.replicate heard.chunks "", ending⟩ := by
  simp [script, ended]

end Heard

/-- What one call has heard in a run. -/
def heardBy (id : ℕ) (labels : List Label) : Heard :=
  (labels.filter fun label => label.party = some id).foldl Heard.hear {}

end heard

section follows

variable {log : List Act} {heard : Heard}

/-- Where a call is in its loop, by what it has done and heard. -/
def Follows (settings : Settings) (name : String) (request : ChatRequest) (log : List Act) (heard : Heard) :
    Call → Prop
  | .idle | .unavailable => log = [] ∧ heard = {}
  | .attempting _ attempt yieldedAny => heard.past.length = attempt ∧
      Reaches (scripted request heard.script) settings.maxRetries.toNat 0 attempt ∧
      (yieldedAny = true ↔ heard.chunks ≠ 0) ∧
      log = done name request heard.script attempt ++ .called attempt :: List.replicate heard.chunks .chunk
  | .sleeping _ attempt _ => heard.past.length = attempt + 1 ∧ heard.chunks = 0 ∧
      Reaches (scripted request heard.script) settings.maxRetries.toNat 0 (attempt + 1) ∧
      log = done name request heard.script (attempt + 1)
  | .succeeded => log = UpstreamEvent.acts (alone settings name request heard.script).events ∧
      (alone settings name request heard.script).outcome = .ok ()
  | .failed => log = UpstreamEvent.acts (alone settings name request heard.script).events ∧
      ∃ error, (alone settings name request heard.script).outcome = .error (.provider error)
  | .escaped => log <+: UpstreamEvent.acts (alone settings name request heard.script).events

/-- A success is not tried again. -/
theorem not_retried_of_ok {chunks : List String} (here : played n = ⟨chunks, .ok ()⟩) :
    ¬ Retried (scripted request played n) := by
  rw [retried_scripted_iff, here]
  rintro ⟨-, error, raised, -⟩
  cases raised

/-- A call in flight has begun what the loop would do should its next upstream call succeed. -/
theorem Follows.begun {phase : Call} (follows : Follows settings name request log heard phase)
    (flying : (∃ kind attempt yieldedAny, phase = .attempting kind attempt yieldedAny) ∨
      ∃ kind attempt wake, phase = .sleeping kind attempt wake) :
    log <+: UpstreamEvent.acts (alone settings name request heard.script).events := by
  have last := heard.script_last
  rcases flying with ⟨kind, attempt, yieldedAny, rfl⟩ | ⟨kind, attempt, wake, rfl⟩
  · obtain ⟨rfl, reaches, -, rfl⟩ := follows
    have length : heard.underway.chunks.length = heard.chunks := List.length_replicate
    rw [(alone_ended name reaches (fun _ _ => rfl) last (.inr (not_retried_of_ok last))).1, length]
    exact ⟨[.recordSuccess], by rw [List.append_assoc]; rfl⟩
  · obtain ⟨length, -, reaches, rfl⟩ := follows
    rw [length] at last
    rw [(alone_ended name reaches (fun _ _ => rfl) last (.inr (not_retried_of_ok last))).1]
    exact List.prefix_append ..

theorem handleFailure_follows {kind : Kind} {attempt : ℕ} {yieldedAny : Bool} (failure : Failure) (jitter : ℚ)
    (follows : Follows settings name request log heard (.attempting kind attempt yieldedAny)) :
    Follows settings name request (log ++ [.recordFailure]) (heard.ended (.error failure.error))
      ((handleFailure settings state id kind attempt yieldedAny failure jitter).calls id) := by
  obtain ⟨rfl, reaches, yielded, rfl⟩ := follows
  have same := heard.script_ended_below (.error failure.error)
  have here := heard.script_ended_last (.error failure.error)
  rw [handleFailure, List.append_assoc, List.cons_append]
  split
  · next stops =>
    have last : heard.past.length = settings.maxRetries.toNat ∨
        ¬ Retried (scripted request (heard.ended (.error failure.error)).script heard.past.length) := by
      have within := reaches.within
      rw [retried_scripted_iff, here]
      rcases stops with streamed | final | spent
      · right
        rintro ⟨silent, -⟩
        exact yielded.mp streamed ((List.replicate_eq_nil_iff ..).mp silent)
      · right
        rintro ⟨-, other, raised, retryable⟩
        obtain rfl := Except.error.inj raised
        exact Bool.false_ne_true (final.symm.trans retryable)
      · left
        omega
    obtain ⟨log, outcome⟩ := alone_ended name reaches same here last
    rw [List.length_replicate] at log
    rw [calls_goto]
    exact ⟨log.symm, failure.error, outcome⟩
  · next again =>
    have silent : heard.chunks = 0 := by
      by_contra streamed
      exact again (.inl (yielded.mpr streamed))
    have retryable : failure.error.retryable = true := by
      by_contra final
      exact again (.inr (.inl (Bool.not_eq_true _ ▸ final)))
    have below : heard.past.length < settings.maxRetries.toNat := by
      have left : ¬ settings.maxRetries ≤ heard.past.length := fun spent => again (.inr (.inr spent))
      omega
    rw [silent] at here
    cases overflows : backoffOverflows heard.past.length failure.retryAfterSeconds with
    | true =>
      have computed : computeBackoffDelay heard.past.length failure.retryAfterSeconds jitter = none := by
        unfold computeBackoffDelay
        rw [if_pos overflows]
      have whole := alone_overflowed name reaches below same here retryable overflows
      rw [computed, calls_goto, silent]
      exact whole ▸ List.prefix_rfl
    | false =>
      obtain ⟨delay, computed⟩ :
          ∃ delay, computeBackoffDelay heard.past.length failure.retryAfterSeconds jitter = some delay := by
        unfold computeBackoffDelay
        rw [overflows, if_neg Bool.false_ne_true]
        cases failure.retryAfterSeconds <;> exact ⟨_, rfl⟩
      rw [computed, calls_goto, silent]
      refine ⟨List.length_append, rfl, reaches_extended reaches below same here retryable overflows, ?_⟩
      exact (done_extended same here).symm

/-- The step lemma for a call's own steps. -/
theorem Follows.step_own (follows : Follows settings name request log heard (state.calls id))
    (own : label.party = some id) (stepped : BaseLLMProvider.step settings state label = some next) :
    Follows settings name request (log ++ acts settings id state label) (heard.hear label) (next.calls id) := by
  cases transits_of_step stepped with
  | tick => cases own
  | refused other kind idle opened =>
    obtain rfl := Option.some.inj own
    rw [idle] at follows
    obtain ⟨rfl, rfl⟩ := follows
    have entered : acts settings other state (.arrive other kind) = [] := (if_pos own).trans (if_neg opened)
    rw [entered, calls_goto]
    exact ⟨rfl, rfl⟩
  | admitted other kind probes idle allowed =>
    obtain rfl := Option.some.inj own
    rw [idle] at follows
    obtain ⟨rfl, rfl⟩ := follows
    have entered : acts settings other state (.arrive other kind) = [.called 0] :=
      (if_pos own).trans (if_pos allowed)
    rw [entered, List.nil_append, State.startImpl, calls_goto]
    exact ⟨rfl, reaches_zero, iff_of_false Bool.false_ne_true (not_not.mpr rfl), rfl⟩
  | yielded other attempt yieldedAny phase =>
    obtain rfl := Option.some.inj own
    rw [phase] at follows
    obtain ⟨rfl, reaches, -, rfl⟩ := follows
    have same : ∀ k < heard.past.length, heard.script k = (heard.hear (.yieldChunk other)).script k :=
      Heard.script_congr List.prefix_rfl
    have yielded : acts settings other state (.yieldChunk other) = [.chunk] := if_pos own
    rw [yielded, calls_goto, List.append_assoc, List.cons_append, ← List.replicate_succ', done_congr same]
    exact ⟨rfl, reaches_congr reaches same, iff_of_true rfl (Nat.succ_ne_zero _), rfl⟩
  | succeeded other kind attempt yieldedAny phase =>
    obtain rfl := Option.some.inj own
    rw [phase] at follows
    obtain ⟨rfl, reaches, yielded, rfl⟩ := follows
    have here := heard.script_ended_last (.ok ())
    obtain ⟨log, outcome⟩ := alone_ended name reaches (heard.script_ended_below (.ok ())) here
      (.inr (not_retried_of_ok here))
    have succeeded : acts settings other state (.succeed other) = [.recordSuccess] := if_pos own
    rw [List.length_replicate] at log
    rw [succeeded, calls_goto, List.append_assoc, List.cons_append]
    exact ⟨log.symm, outcome⟩
  | failed other failure jitter kind attempt yieldedAny phase =>
    obtain rfl := Option.some.inj own
    rw [phase] at follows
    have failed : acts settings other state (.fail other failure jitter) = [.recordFailure] := if_pos own
    rw [failed]
    exact handleFailure_follows failure jitter follows
  | retried other kind attempt wake phase =>
    obtain rfl := Option.some.inj own
    rw [phase] at follows
    obtain ⟨length, silent, reaches, rfl⟩ := follows
    have called : acts settings other state (.retry other) = [.called (attempt + 1)] := by
      simp only [acts, own, phase, if_true]
    rw [called, State.startImpl, calls_goto]
    refine ⟨length, reaches, iff_of_false Bool.false_ne_true (not_not.mpr silent), ?_⟩
    rw [Heard.hear, silent]
    rfl
  | escaped other flying =>
    obtain rfl := Option.some.inj own
    have nothing : acts settings other state (.escape other) = [] := if_pos own
    rw [nothing, List.append_nil, calls_goto]
    exact follows.begun flying

theorem follows_run (follows : Follows settings name request log heard (state.calls id))
    (ran : run? (BaseLLMProvider.step settings) state labels = some final) :
    Follows settings name request
      (log ++ answers (BaseLLMProvider.step settings) (acts settings id) state labels)
      ((labels.filter fun label => label.party = some id).foldl Heard.hear heard) (final.calls id) := by
  induction labels generalizing state log heard with
  | nil =>
    obtain rfl := Option.some.inj ran
    rw [answers, List.append_nil]
    exact follows
  | cons label rest ih =>
    obtain ⟨next, stepped, ran⟩ := run?_cons_iff.mp ran
    rw [answers_cons stepped, ← List.append_assoc]
    by_cases own : label.party = some id
    · have kept : (label :: rest).filter (fun label => label.party = some id) =
          label :: rest.filter fun label => label.party = some id :=
            List.filter_cons_of_pos (decide_eq_true own)
      rw [kept, List.foldl_cons]
      exact ih (follows.step_own own stepped) ran
    · obtain ⟨same, nothing⟩ := frame stepped own
      have dropped : (label :: rest).filter (fun label => label.party = some id) =
          rest.filter fun label => label.party = some id :=
        List.filter_cons_of_neg fun mine => own (of_decide_eq_true mine)
      rw [dropped, nothing, List.append_nil]
      apply ih _ ran
      rw [same]
      exact follows

/-- In every interleaving each call does, as far as it has come, what its retry loop does alone on what the call
has heard from its own upstream calls and from the breaker when it came in. One that has ended has done all
of it, and ends alike. -/
theorem calls_serial (ran : run? (BaseLLMProvider.step settings) {} labels = some final) (name : String)
    (request : ChatRequest) (id : ℕ) :
    let log := answers (BaseLLMProvider.step settings) (acts settings id) {} labels
    ∃ allowed,
      let alone := guarded name settings.maxRetries allowed (scripted request (heardBy id labels).script)
      log <+: UpstreamEvent.acts alone.events ∧
        (final.calls id = .succeeded → log = UpstreamEvent.acts alone.events ∧ alone.outcome = .ok ()) ∧
        (final.calls id = .failed →
          log = UpstreamEvent.acts alone.events ∧ ∃ error, alone.outcome = .error (.provider error)) ∧
        (final.calls id = .unavailable → allowed = false) := by
  intro log
  have initial : Follows settings name request [] {} (({} : State).calls id) := ⟨rfl, rfl⟩
  have follows : Follows settings name request log (heardBy id labels) (final.calls id) :=
    follows_run initial ran
  cases phase : final.calls id with
  | idle | unavailable =>
    rw [phase] at follows
    refine ⟨false, ?_, nofun, nofun, fun _ => rfl⟩
    rw [follows.1]
    exact List.nil_prefix
  | succeeded =>
    rw [phase] at follows
    obtain ⟨same, outcome⟩ := follows
    refine ⟨true, ?_, fun _ => ⟨same, outcome⟩, nofun, nofun⟩
    exact same ▸ List.prefix_rfl
  | failed =>
    rw [phase] at follows
    obtain ⟨same, error, outcome⟩ := follows
    refine ⟨true, ?_, nofun, fun _ => ⟨same, error, outcome⟩, nofun⟩
    exact same ▸ List.prefix_rfl
  | attempting kind attempt yieldedAny =>
    exact ⟨true, follows.begun (.inl ⟨kind, attempt, yieldedAny, phase⟩), nofun, nofun, nofun⟩
  | sleeping kind attempt wake =>
    exact ⟨true, follows.begun (.inr ⟨kind, attempt, wake, phase⟩), nofun, nofun, nofun⟩
  | escaped =>
    rw [phase] at follows
    exact ⟨true, follows, nofun, nofun, nofun⟩

/-- A retry on one side of a stream and its end on the other. -/
def overlapping : List Label :=
  [.arrive 0 .complete, .arrive 1 .stream, .fail 0 {} 0, .yieldChunk 1, .tick (1 / 2), .retry 0, .succeed 1,
    .succeed 0]

theorem calls_serial_overlapping : ∃ final, run? (BaseLLMProvider.step {}) {} overlapping = some final ∧
    answers (BaseLLMProvider.step {}) (acts {} 0) {} overlapping =
      [.called 0, .recordFailure, .called 1, .recordSuccess] ∧
    ∃ allowed,
      let alone := guarded "openai" 3 allowed
        (scripted { model := "gpt-4o", messages := [] } (heardBy 0 overlapping).script)
      UpstreamEvent.acts alone.events = [.called 0, .recordFailure, .called 1, .recordSuccess] ∧
        alone.outcome = .ok () := by
  have checked : (run? (BaseLLMProvider.step {}) {} overlapping).any (fun final =>
      decide (final.calls 0 = .succeeded ∧ answers (BaseLLMProvider.step {}) (acts {} 0) {} overlapping =
        [.called 0, .recordFailure, .called 1, .recordSuccess])) = true := by
    decide +kernel
  obtain ⟨final, ran, checked⟩ := (Option.any_eq_true ..).mp checked
  obtain ⟨ended, log⟩ := of_decide_eq_true checked
  obtain ⟨allowed, -, whole, -⟩ := calls_serial ran "openai" { model := "gpt-4o", messages := [] } 0
  exact ⟨final, ran, log, allowed, (whole ended).1.symm.trans log, (whole ended).2⟩

end follows

end BaseLLMProvider

end LlmopsGateway
